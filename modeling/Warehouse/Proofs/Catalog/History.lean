import Warehouse.CommandLine
import Warehouse.Proofs.Dict.Lookup
import Warehouse.Proofs.Outcome
import Warehouse.Proofs.Text.Casing

/-!
What a catalog answers after any history of registrations and aliases. A dialect that has been registered is
listed under its name, and the last one of a name counts; but an alias is asked first, so it hides a dialect of
the same name unless it leads there itself. Main statement: a listed name finds its dialect exactly when no
alias of that name leads elsewhere, and so does a vocabulary that is given on the command line.
-/

namespace Warehouse

open Text (lower lower_lower)

namespace Catalog

/-! ### Histories -/

/-- What can be done to a catalog. -/
inductive Operation where
  | register (d : Dialect)
  | registerVocabulary (name : String) (v : Vocabulary)
  | registerAlias (name target : String)

namespace Operation

/-- The catalog after the operation. -/
def apply (c : Catalog) : Operation → Catalog
  | register d => c.register d
  | registerVocabulary name v => c.registerVocabulary name v
  | registerAlias name target => c.registerAlias name target

/-- The dialect that the operation registers under a name in lower case. -/
def dialect? (key : String) : Operation → Option Dialect
  | register d => if key = lower d.name then some d else none
  | registerVocabulary name v => if key = lower name then some (.custom name v) else none
  | registerAlias _ _ => none

/-- The name that the operation makes an alias lead to, both in lower case. -/
def target? (key : String) : Operation → Option String
  | registerAlias name target => if key = lower name then some (lower target) else none
  | _ => none

theorem find?_dialects_apply (key : String) (o : Operation) (c : Catalog) :
    (o.apply c).dialects.find? key = (o.dialect? key).or (c.dialects.find? key) := by
  cases o with
  | register d =>
    rw [apply, Catalog.register, Dict.find?_insert, dialect?]
    split <;> rfl
  | registerVocabulary name v =>
    rw [apply, Catalog.registerVocabulary, Catalog.register, Dialect.name, Dict.find?_insert, dialect?]
    split <;> rfl
  | registerAlias name target => rfl

theorem find?_aliases_apply (key : String) (o : Operation) (c : Catalog) :
    (o.apply c).aliases.find? key = (o.target? key).or (c.aliases.find? key) := by
  cases o with
  | register d => rfl
  | registerVocabulary name v => rfl
  | registerAlias name target =>
    rw [apply, Catalog.registerAlias, Dict.find?_insert, target?]
    split <;> rfl

end Operation

/-- The catalog after operations, one after the other. -/
def run (c : Catalog) (ops : List Operation) : Catalog := ops.foldl Operation.apply c

/-- The dialect last registered under a name. -/
def lastDialect? (ops : List Operation) (key : String) : Option Dialect :=
  (ops.filterMap (·.dialect? key)).getLast?

/-- Where an alias was last made to lead. -/
def lastTarget? (ops : List Operation) (key : String) : Option String :=
  (ops.filterMap (·.target? key)).getLast?

/-- Whatever each operation sets or else leaves alone is after a history what was set last. -/
theorem set_run {α : Type} (answer : Catalog → Option α) {set : Operation → Option α}
    (h : ∀ o c, answer (o.apply c) = (set o).or (answer c)) (ops : List Operation) (c : Catalog) :
    answer (run c ops) = (ops.filterMap set).getLast?.or (answer c) := by
  induction ops generalizing c with
  | nil => rfl
  | cons o rest ih =>
    rw [run, List.foldl_cons, ← run, ih, h, List.filterMap_cons]
    cases set o with
    | none => rfl
    | some a =>
      rw [List.getLast?_cons, Option.some_or]
      cases (rest.filterMap set).getLast? <;> rfl

theorem find?_dialects_run (ops : List Operation) (key : String) :
    (run empty ops).dialects.find? key = lastDialect? ops key :=
  (set_run (·.dialects.find? key) (Operation.find?_dialects_apply key) ops
    empty).trans Option.or_none

theorem find?_aliases_run (ops : List Operation) (key : String) :
    (run empty ops).aliases.find? key = lastTarget? ops key :=
  (set_run (·.aliases.find? key) (Operation.find?_aliases_apply key) ops
    empty).trans Option.or_none

theorem get?_run (ops : List Operation) (name : String) : (run empty ops).get? name =
    lastDialect? ops ((lastTarget? ops (lower name)).getD (lower name)) := by
  rw [get?, find?_aliases_run, find?_dialects_run]

theorem mem_names_run {ops : List Operation} {key : String} :
    key ∈ (run empty ops).names ↔ ∃ d, lastDialect? ops key = some d := by
  rw [names, ← Dict.contains_iff, Dict.contains, find?_dialects_run, Option.isSome_iff_exists]

/-- A dialect is registered under its own name. -/
theorem lower_of_lastDialect? {ops : List Operation} {key : String} {d : Dialect}
    (h : lastDialect? ops key = some d) : lower d.name = key := by
  obtain ⟨o, _, ho⟩ := List.mem_filterMap.1 (List.mem_of_getLast? h)
  cases o with
  | register d' =>
    rw [Operation.dialect?] at ho
    split at ho <;> cases ho
    exact Eq.symm ‹_›
  | registerVocabulary name v =>
    rw [Operation.dialect?] at ho
    split at ho <;> cases ho
    exact Eq.symm ‹_›
  | registerAlias _ _ => cases ho

/-- Whether an alias of the name leads to another name. -/
def Hidden (ops : List Operation) (key : String) : Prop :=
  ∃ target, lastTarget? ops key = some target ∧ target ≠ key

theorem get?_run_iff {ops : List Operation} {name : String} {d : Dialect}
    (h : lastDialect? ops (lower name) = some d) :
    (run empty ops).get? name = some d ↔ ¬ Hidden ops (lower name) := by
  rw [get?_run, Hidden]
  cases htarget : lastTarget? ops (lower name) with
  | none => simpa using h
  | some target =>
    rw [Option.getD_some]
    constructor
    · rintro hfound ⟨_, hsome, hne⟩
      cases hsome
      exact hne ((lower_of_lastDialect? hfound).symm.trans (lower_of_lastDialect? h))
    · intro hnot
      have hsame : target = lower name := by
        by_contra hne
        exact hnot ⟨target, rfl, hne⟩
      rw [hsame, h]

theorem require_eq_ok {c : Catalog} {name : String} {d : Dialect} :
    c.require name = .ok d ↔ c.get? name = some d := by
  rw [require]
  split <;> simp_all

/-! ### The built-in catalog -/

/-- The history of the built-in catalog. -/
def builtinOperations : List Operation :=
  [.register .hive, .register .presto, .register .trino, .register .redshift,
    .registerAlias "prestodb" "presto", .registerAlias "prestosql" "trino",
    .registerAlias "athena" "presto", .registerAlias "spark" "hive"]

theorem run_builtin (ops : List Operation) :
    run builtin ops = run empty (builtinOperations ++ ops) := by
  rw [run, run, List.foldl_append]
  rfl

/-- The aliases that are built in, with the dialects that they lead to. -/
def builtinAliases : List (String × Dialect) :=
  [("prestodb", .presto), ("prestosql", .trino), ("athena", .presto), ("spark", .hive)]

theorem lower_builtin :
    ["hive", "presto", "trino", "redshift", "prestodb", "prestosql", "athena", "spark"].map lower =
      ["hive", "presto", "trino", "redshift", "prestodb", "prestosql", "athena", "spark"] := by cbv

section Given

variable {name key : String} {v : Vocabulary}

theorem lastTarget?_given : lastTarget? (builtinOperations ++ [.registerVocabulary name v]) key =
    (builtinAliases.lookup key).map Dialect.name := by
  have hlower := lower_builtin
  simp only [List.map_cons, List.map_nil, List.cons.injEq, and_true] at hlower
  obtain ⟨h1, h2, h3, h4, h5, h6, h7, h8⟩ := hlower
  by_cases hkey : key ∈ builtinAliases.map (·.1)
  · simp only [builtinAliases, List.map_cons, List.map_nil, List.mem_cons, List.not_mem_nil,
      or_false] at hkey
    rcases hkey with rfl | rfl | rfl | rfl
    all_goals
      simp [lastTarget?, builtinOperations, Operation.target?, builtinAliases, List.lookup_cons,
        Dialect.name, *]
  · rw [lookup_eq_none.2 hkey]
    simp only [builtinAliases, List.map_cons, List.map_nil, List.mem_cons, List.not_mem_nil,
      or_false, not_or] at hkey
    simp [lastTarget?, builtinOperations, Operation.target?, *]

theorem lastDialect?_given : lastDialect? (builtinOperations ++ [.registerVocabulary name v]) key =
    if key = lower name then some (.custom name v) else lastDialect? builtinOperations key := by
  rw [lastDialect?, lastDialect?, List.filterMap_append, List.getLast?_append, List.filterMap_cons,
    List.filterMap_nil, Operation.dialect?]
  by_cases h : key = lower name
  · rw [if_pos h, if_pos h]
    rfl
  · rw [if_neg h, if_neg h]
    rfl

end Given

theorem lastDialect?_alias {key : String} {d : Dialect} (h : (key, d) ∈ builtinAliases) :
    lastDialect? builtinOperations d.name = some d ∧ d.name ≠ key ∧
      builtinAliases.lookup key = some d := by
  have hlower := lower_builtin
  simp only [List.map_cons, List.map_nil, List.cons.injEq, and_true] at hlower
  simp only [builtinAliases, List.mem_cons, List.not_mem_nil, or_false, Prod.mk.injEq] at h
  rcases h with ⟨rfl, rfl⟩ | ⟨rfl, rfl⟩ | ⟨rfl, rfl⟩ | ⟨rfl, rfl⟩
  all_goals
    simp [lastDialect?, builtinOperations, Operation.dialect?, builtinAliases, List.lookup_cons,
      Dialect.name, hlower]

end Catalog

namespace CommandLine

open Catalog (Operation Hidden run lastDialect? lastTarget? builtinOperations builtinAliases)

theorem findDialect_given {load : String → Except Problem Vocabulary} {name path : String} {v : Vocabulary}
    (h : load path = .ok v) : findDialect load name (some path) =
      (run Catalog.empty (builtinOperations ++ [.registerVocabulary (lower name) v])).require name := by
  have hgiven : run Catalog.builtin [.registerVocabulary (lower name) v] =
      Catalog.builtin.registerVocabulary (lower name) v := by
    rw [run, List.foldl_cons, List.foldl_nil, Operation.apply]
  have hload : ∀ f : Vocabulary → Except Problem Dialect, (load path >>= f) = f v := by
    intro f
    rw [h]
    rfl
  rw [← Catalog.run_builtin, hgiven]
  exact hload _

/-- A vocabulary that is given counts for its name unless that is a built-in alias. -/
theorem findDialect_given_iff {load : String → Except Problem Vocabulary} {name path : String} {v : Vocabulary}
    (h : load path = .ok v) : findDialect load name (some path) = .ok (.custom (lower name) v) ↔
      lower name ∉ builtinAliases.map (·.1) := by
  have hlast : lastDialect? (builtinOperations ++ [.registerVocabulary (lower name) v])
      (lower name) = some (.custom (lower name) v) := by
    rw [Catalog.lastDialect?_given, lower_lower, if_pos rfl]
  rw [findDialect_given h, Catalog.require_eq_ok, Catalog.get?_run_iff hlast, Hidden,
    Catalog.lastTarget?_given]
  refine not_congr ⟨?_, ?_⟩
  · rintro ⟨target, htarget, _⟩
    by_contra hnot
    rw [lookup_eq_none.2 hnot] at htarget
    cases htarget
  · intro hmem
    obtain ⟨⟨_, d⟩, hd, rfl⟩ := List.mem_map.1 hmem
    obtain ⟨_, hne, hlookup⟩ := Catalog.lastDialect?_alias hd
    exact ⟨d.name, by rw [hlookup]; rfl, hne⟩

/-- Under a built-in alias the dialect is the one that it leads to, whatever is given. -/
theorem findDialect_alias {load : String → Except Problem Vocabulary} {name path : String} {v : Vocabulary}
    {d : Dialect} (h : load path = .ok v) (hd : (lower name, d) ∈ builtinAliases) :
    findDialect load name (some path) = .ok d := by
  obtain ⟨hlast, hne, hlookup⟩ := Catalog.lastDialect?_alias hd
  rw [findDialect_given h, Catalog.require_eq_ok, Catalog.get?_run, Catalog.lastTarget?_given, hlookup,
    Option.map_some, Option.getD_some, Catalog.lastDialect?_given, lower_lower, if_neg hne, hlast]

end CommandLine

namespace Catalog

open CommandLine (findDialect)

/-- What a catalog with this history answers. -/
structure Answers (c : Catalog) (ops : List Operation) : Prop where
  /-- The names under which dialects have been registered are listed, in lower case. -/
  listed : ∀ key, key ∈ c.names ↔ ∃ d, lastDialect? ops key = some d
  lower_listed : ∀ key ∈ c.names, lower key = key
  /-- However it is written, such a name finds the last of its dialects exactly when no alias of the name leads
  elsewhere. -/
  get_iff : ∀ name d, lastDialect? ops (lower name) = some d →
    (c.get? name = some d ↔ ¬ Hidden ops (lower name))
  require_iff : ∀ name d, lastDialect? ops (lower name) = some d →
    (c.require name = .ok d ↔ ¬ Hidden ops (lower name))
  /-- An alias finds what was last registered under the name that it leads to. -/
  aliased : ∀ name target, lastTarget? ops (lower name) = some target →
    c.get? name = lastDialect? ops target

theorem answers_run (ops : List Operation) : (run empty ops).Answers ops := by
  constructor
  case listed => exact fun _ => mem_names_run
  case lower_listed =>
    intro key hkey
    obtain ⟨d, hd⟩ := mem_names_run.1 hkey
    rw [← lower_of_lastDialect? hd, lower_lower]
  case get_iff => exact fun name d hd => get?_run_iff hd
  case require_iff => exact fun name d hd => require_eq_ok.trans (get?_run_iff hd)
  case aliased =>
    intro name target htarget
    rw [get?_run, htarget, Option.getD_some]

/-- After any history a listed name finds its dialect unless an alias hides it. The built-in catalog is one
with aliases of its own, so a vocabulary given on the command line counts unless its name is one of these. -/
theorem registered_found_iff (ops : List Operation) : (run empty ops).Answers ops ∧
    (run builtin ops).Answers (builtinOperations ++ ops) ∧
    ∀ (load : String → Except Problem Vocabulary) (name path : String) (v : Vocabulary), load path = .ok v →
      (findDialect load name (some path) = .ok (.custom (lower name) v) ↔
        lower name ∉ builtinAliases.map (·.1)) ∧
      ∀ d, (lower name, d) ∈ builtinAliases → findDialect load name (some path) = .ok d := by
  refine ⟨answers_run ops, ?_, fun load name path v h => ?_⟩
  · rw [run_builtin]
    exact answers_run _
  · exact ⟨CommandLine.findDialect_given_iff h, fun d hd => CommandLine.findDialect_alias h hd⟩

/-- The vocabulary of a dialect that is not built in. -/
def words : Vocabulary := Vocabulary.withType {} .integer "INT8"

/-- What loads this vocabulary from the one file that there is. -/
def loadWords (path : String) : Except Problem Vocabulary :=
  if path = "words.yaml" then .ok words else .error (.file .notFound)

/-- A history in which one dialect is registered and has an alias of its own. -/
def duckOperations : List Operation :=
  [.registerVocabulary "DuckDB" default, .registerAlias "Duck" "DUCKDB"]

/-- A name that is no alias finds what is registered under it, however it is written, and the vocabulary
that a file gives for it. -/
theorem duckdb_found :
    lastDialect? duckOperations (lower "duckDB") = some (.custom "DuckDB" default) ∧
    (run empty duckOperations).require "duckDB" = .ok (.custom "DuckDB" default) ∧
    loadWords "words.yaml" = .ok words ∧
    findDialect loadWords "DuckDB" (some "words.yaml") = .ok (.custom (lower "DuckDB") words) := by
  have hlower : [lower "duckDB", lower "DuckDB", lower "Duck"] = ["duckdb", "duckdb", "duck"] := by cbv
  simp only [List.cons.injEq, and_true] at hlower
  obtain ⟨h1, h2, h3⟩ := hlower
  have hlast : lastDialect? duckOperations (lower "duckDB") = some (.custom "DuckDB" default) := by
    simp [lastDialect?, duckOperations, Operation.dialect?, h1, h2]
  have hshown : ¬ Hidden duckOperations (lower "duckDB") := by
    simp [Hidden, lastTarget?, duckOperations, Operation.target?, h1, h3]
  obtain ⟨hanswers, _, hgiven⟩ := registered_found_iff duckOperations
  have hfile := (hgiven loadWords "DuckDB" "words.yaml" words rfl).1.2 (by simp [builtinAliases, h2])
  exact ⟨hlast, (hanswers.require_iff _ _ hlast).2 hshown, rfl, hfile⟩

/-- A dialect that is registered under the name of a built-in alias is listed and never found, and the file
that is given for such a name is not used. -/
theorem spark_hidden :
    "spark" ∈ (builtin.registerVocabulary "spark" default).names ∧
    (builtin.registerVocabulary "spark" default).get? "spark" = some .hive ∧
    loadWords "words.yaml" = .ok words ∧ words.typeTemplate .integer = some "INT8" ∧
    findDialect loadWords "spark" (some "words.yaml") = .ok .hive ∧
    Dialect.hive.vocabulary.typeTemplate .integer ≠ some "INT8" := by
  have hspark : lower "spark" = "spark" := by cbv
  have hrun : builtin.registerVocabulary "spark" default =
      run empty (builtinOperations ++ [.registerVocabulary "spark" default]) := by
    rw [← run_builtin, run, List.foldl_cons, List.foldl_nil, Operation.apply]
  have halias : ("spark", Dialect.hive) ∈ builtinAliases := by simp [builtinAliases]
  obtain ⟨hhive, hne, hlookup⟩ := lastDialect?_alias halias
  have hload : loadWords "words.yaml" = .ok words := rfl
  refine ⟨?_, ?_, hload, rfl, CommandLine.findDialect_alias hload (hspark ▸ halias), by decide⟩
  · rw [hrun, mem_names_run]
    exact ⟨.custom "spark" default, by rw [lastDialect?_given, hspark, if_pos rfl]⟩
  · rw [hrun, get?_run, hspark, lastTarget?_given, hlookup, Option.map_some, Option.getD_some,
      lastDialect?_given, hspark, if_neg hne, hhive]

end Catalog

end Warehouse
