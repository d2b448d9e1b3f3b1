import NodeDataplane.Document.Basic

/-!
# How texts are read

What a text holds depends on the reader. Nested brackets take room on a stack, so the reader of JSON
texts has a number of levels that it can go down. The reader of YAML texts is foreign to the program
and is known by its results alone: a document, or the fault that it reports.

What is shown of watchers and of settings with some `Loader` holds with every one. `Yaml.parse` is a
reader of YAML texts, and with it a loader is given in `Document.Yaml`.
-/

namespace NodeDataplane

/-- How texts are read. -/
class Loader where
  /-- How many brackets of a JSON text may be open at once. -/
  levels : Nat
  yaml : String → Except DocumentFault Document

end NodeDataplane
