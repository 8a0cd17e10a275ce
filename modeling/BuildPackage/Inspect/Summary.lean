import BuildPackage.Inspect.Json
import BuildPackage.Package.Boundary

set_option relaxedAutoImplicit false
set_option autoImplicit false

/-!
# Summaries

A package as a JSON object for people and scripts: labels, licenses, locations and events are
texts.

## Main definitions

* `BuildPackage.AttributeValue.toJson` — the summary of a value.
* `BuildPackage.Package.summary` — the summary of a package with its events.
* `BuildPackage.CheckedPackage.summary` — the same, with the crossings.
-/

namespace BuildPackage

/-- The texts of some labels. -/
def labelsJson (labels : List Label) : Json := .list (fun l => .text l.text) labels

/-- The summary of a fileset entry. What happens to symbolic links is left out. -/
def FilesetEntry.toJson (e : FilesetEntry) : Json := .object [
  ("destdir", .text e.destination),
  ("excludes", .ofOption .texts e.excludes),
  ("files", .ofOption labelsJson e.files),
  ("src", .text e.source.text),
  ("strip_prefix", .ofOption .text e.stripPrefix)]

/-- The summary of a value. A dictionary is a list of pairs, as its keys may repeat. -/
def AttributeValue.toJson : AttributeValue → Json
  | integer value => .int value.toInt
  | string value => .text value
  | label value => .text value.text
  | stringList items => .texts items.items
  | labelList items => labelsJson items.items
  | distributionSet distributions => .texts (distributions.toList.map Distribution.text)
  | license value => .text value.text
  | stringDict entries => .list (fun e => .array [.text e.1, .text e.2]) entries
  | filesetEntryList entries => .list FilesetEntry.toJson entries
  | labelListDict entries => .list (fun e => .array [.text e.1, labelsJson e.2]) entries
  | stringListDict entries => .list (fun e => .array [.text e.1, .texts e.2]) entries
  | boolean value => .bool value
  | tristate value => .text value.text

/-- The summary of a rule. -/
def Rule.toJson (r : Rule) : Json := .object [
  ("attributes", .object (r.attributes.toList.map fun a => (a.1, a.2.value.toJson))),
  ("class", .text r.ruleClass),
  ("label", .text r.label.text),
  ("location", .text r.location.text)]

/-- The summary of a package group. -/
def PackageGroup.toJson (g : PackageGroup) : Json := .object [
  ("includes", labelsJson g.includes),
  ("label", .text g.label.text),
  ("packages", .texts g.specs)]

/-- The members of a package's summary, in the order of their names. -/
def Package.summary (p : Package) (log : EventLog) : List (String × Json) := [
  ("build_file", .text p.buildFile.text),
  ("contains_errors", .bool p.containsErrors),
  ("default_license", .text p.defaults.license.text),
  ("default_visibility", labelsJson p.defaults.visibility.labels),
  ("default_visibility_set", .bool p.defaults.visibilitySet),
  ("events", .list (fun e => .text e.text) log.toList),
  ("input_files", labelsJson (p.inputFiles.map InputFile.label)),
  ("name", .text p.name),
  ("output_files", labelsJson p.outputFiles),
  ("package_groups", .list PackageGroup.toJson p.packageGroups),
  ("rules", .list Rule.toJson p.rules),
  ("subincludes", .list (fun s => .text s.path.text) p.subincludes)]

/-- The summary of a crossing. -/
def Crossing.toJson (c : Crossing) : Json := .object [
  ("label", .text c.label.text),
  ("subpackage", .text c.subpackage)]

/-- The members of a checked package's summary: those of the package, and the crossings. -/
def CheckedPackage.summary (p : CheckedPackage) (log : EventLog) : List (String × Json) :=
  p.package.summary log ++ [("subpackage_crossings", .list Crossing.toJson p.crossings)]

end BuildPackage
