import Classpath.ProjectFile.Basic
import Classpath.Toml.Document
import Classpath.Toml.Number

/-!
# Project files in TOML

How the tables of a document become the sections of a project file.

## Main definitions

* `Fields` — the named values of a section
* `ProjectFile.ofToml` — the project file of a text

## Design notes

Keys that no section knows are passed over, but the numbers behind them have to be readable. A
section is a table, or an array of its values in the order in which the section declares them, where
values at the end may be missing and further items do not count at all. A date stands for a table
that has no known key. A scope is a word, or a table with the word as its only key and nothing in
it.
-/

namespace Classpath

open Toml (Value Fault)

/-- The values of a section, by key. -/
abbrev Fields := List (String × Value)

namespace Fields

/-- The entries of a table as the fields of a section with these keys. -/
def ofEntries (keys : List String) (entries : List (String × Value)) : Except Fault Fields :=
  if entries.all fun (key, v) => keys.contains key || v.isReadable then .ok entries
  else .error .number

/-- The fields of a section with these keys, in declaration order. -/
def ofValue (keys : List String) : Value → Except Fault Fields
  | .table _ entries => ofEntries keys entries
  | .array _ items => .ok (keys.zip items)
  | .dateTime _ => .ok []
  | _ => .error (.wrongType "table")

/-- The value under a key, read by `read`, or `missing` if there is none. -/
def get {α : Type} (fields : Fields) (key : String) (missing : α) (read : Value → Except Fault α) :
    Except Fault α :=
  match fields.lookup key with
  | none => .ok missing
  | some v => read v

end Fields

/-- A string. -/
def readString : Value → Except Fault String
  | .string text => .ok text
  | _ => .error (.wrongType "string")

/-- A path. -/
def readPath (v : Value) : Except Fault Path :=
  Path.mk <$> readString v

/-- A truth value. -/
def readBool : Value → Except Fault Bool
  | .boolean b => .ok b
  | _ => .error (.wrongType "boolean")

/-- A list. -/
def readList {α : Type} (read : Value → Except Fault α) : Value → Except Fault (List α)
  | .array _ items => items.mapM read
  | _ => .error (.wrongType "array")

/-- The section under each key of a table. -/
def readSections {α : Type} (read : Value → Except Fault α) : Value → Except Fault (NameTable α)
  | .table _ entries => do
    return .ofList (← entries.mapM fun (name, v) => do return (name, ← read v))
  | _ => .error (.wrongType "table")

/-- A scope by its word. -/
def readScopeName (word : String) : Except Fault Scope :=
  match Scope.ofName? word with
  | some scope => .ok scope
  | none => .error (.unknownVariant word)

/-- A scope. -/
def readScope : Value → Except Fault Scope
  | .string word => readScopeName word
  | .table _ [(word, .table _ [])] | .table _ [(word, .array _ [])] => readScopeName word
  | _ => .error (.wrongType "string or table")

/-- The section about the project as a whole. -/
def ProjectSection.ofValue (v : Value) : Except Fault ProjectSection := do
  let fields ← Fields.ofValue ["name", "roots"] v
  return {
    name := ← fields.get "name" none (some <$> readString ·)
    roots := ← fields.get "roots" [] (readList readString) }

/-- A section of a library or an SDK. -/
def BundleSection.ofValue (v : Value) : Except Fault BundleSection := do
  let fields ← Fields.ofValue ["classes", "sources"] v
  return {
    classes := ← fields.get "classes" [] (readList readPath)
    sources := ← fields.get "sources" [] (readList readPath) }

/-- A dependency. -/
def DependencyEntry.ofValue (v : Value) : Except Fault DependencyEntry := do
  let fields ← Fields.ofValue ["module", "library", "sdk", "scope", "exported"] v
  return {
    module := ← fields.get "module" none (some <$> readString ·)
    library := ← fields.get "library" none (some <$> readString ·)
    sdk := ← fields.get "sdk" none (some <$> readString ·)
    scope := ← fields.get "scope" none (some <$> readScope ·)
    exported := ← fields.get "exported" none (some <$> readBool ·) }

/-- A section of a module. -/
def ModuleSection.ofValue (v : Value) : Except Fault ModuleSection := do
  let fields ← Fields.ofValue ["output", "test_output", "sources", "test_sources", "dependencies"] v
  return {
    output := ← fields.get "output" none (some <$> readPath ·)
    testOutput := ← fields.get "test_output" none (some <$> readPath ·)
    sources := ← fields.get "sources" [] (readList readPath)
    testSources := ← fields.get "test_sources" [] (readList readPath)
    dependencies := ← fields.get "dependencies" [] (readList DependencyEntry.ofValue) }

/-- A section of a handler. -/
def HandlerSection.ofValue (v : Value) : Except Fault HandlerSection := do
  let fields ← Fields.ofValue ["applies_to", "process_recursively", "include_tests_from_dependents",
    "add_runtime_to_test_compile", "production_on_tests"] v
  return {
    appliesTo := ← fields.get "applies_to" [] (readList readString)
    processRecursively := ← fields.get "process_recursively" true readBool
    includeTestsFromDependents := ← fields.get "include_tests_from_dependents" true readBool
    addRuntimeToTestCompile := ← fields.get "add_runtime_to_test_compile" false readBool
    productionOnTests := ← fields.get "production_on_tests" [] (readList readString) }

namespace ProjectFile

/-- The project file that a document describes. -/
def ofDocument (document : Toml.Table) : Except Fault ProjectFile := do
  let fields ← Fields.ofEntries ["project", "sdk", "library", "module", "handler"] document.entries
  return {
    project := ← fields.get "project" {} ProjectSection.ofValue
    sdks := ← fields.get "sdk" .empty (readSections BundleSection.ofValue)
    libraries := ← fields.get "library" .empty (readSections BundleSection.ofValue)
    modules := ← fields.get "module" .empty (readSections ModuleSection.ofValue)
    handlers := ← fields.get "handler" .empty (readSections HandlerSection.ofValue) }

/-- The project file of a text. -/
def ofToml (text : String) : Except Fault ProjectFile := do
  ofDocument (← Toml.parse text)

end ProjectFile

end Classpath
