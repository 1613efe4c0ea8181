/-
Making catalogs and topologies from YAML texts, and what can go wrong with files.
-/
import NetDraft.Catalog.Wire
import NetDraft.Document

namespace NetDraft

/-- Why a file cannot be used. -/
inductive LoadFault where
  | notFound (path : String)
  | yaml (fault : YamlFault)
  | emptyKey (kind : Kind)
  | entry (refused : RefusedEntry)
  /-- The file cannot be read. -/
  | unreadable (reason : String)
deriving DecidableEq

namespace LoadFault

/-- The words of the reader of YAML texts.  It is not told which rule of the syntax a malformed text
breaks, so that one word stands for all of them. -/
def yamlMessage : YamlFault → String
  | .malformed => "malformed"
  | .shape message => message

/-- The words in which the fault is reported. -/
def message : LoadFault → String
  | notFound path => "file not found: " ++ path
  | yaml fault => "failed to parse YAML: " ++ yamlMessage fault
  | emptyKey kind => "invalid catalog: " ++ kind.name ++ " contains an empty key"
  | entry refused => refused.message
  | unreadable reason => "IO error: " ++ reason

/-- The report of the fault and of what caused it, the cause last. -/
def causes : LoadFault → List String
  | yaml fault => [message (yaml fault), yamlMessage fault]
  | entry refused => [refused.message, refused.reason.message]
  | unreadable reason => [message (unreadable reason), reason]
  | other => [other.message]

end LoadFault

/-- A value read from a YAML text. -/
def readYaml {α : Type} [Wire α] (text : String) : Except LoadFault α :=
  (Wire.ofYaml text).mapError .yaml

/-- The catalog of a text, in which no key may be empty. -/
def Catalog.ofYaml (text : String) : Except LoadFault Catalog := do
  let catalog : Catalog ← readYaml text
  match catalog.emptyKey? with
  | some kind => .error (.emptyKey kind)
  | none => return catalog

/-- The topology of a document. -/
def Topology.ofYaml (text : String) : Except LoadFault Topology := do
  let document : Document ← readYaml text
  document.topology.mapError .entry

end NetDraft
