import MustacheBuild.Build.Comparison
import MustacheBuild.Build.Discovery
import MustacheBuild.Build.Record
import MustacheBuild.CommandLine.ControlSequence

/-!
The details of a build, step by step, for the user who asks for them.
-/
namespace MustacheBuild

/-- What a detail is about. -/
inductive Detail.Topic where
  | search
  | command
  | encoding
  | writing
  | build
  deriving DecidableEq, Repr

def Detail.Topic.name : Topic → String
  | search => "stache_sync::discover"
  | command => "stache::commands"
  | encoding => "stache_sync::encoding"
  | writing => "stache_sync::writer"
  | build => "stache_sync::pipeline"

structure Detail where
  topic : Detail.Topic
  text : String
  deriving DecidableEq, Repr

def Discovery.Source.details : Source → List Detail
  | directory p templates => [⟨.search, s!"found {templates.length} template(s) under {p.display}"⟩]
  | template _ => []

def EncodingChoice.detail (c : EncodingChoice) : Detail :=
  ⟨.encoding, s!"encoding for {String.ofList c.dataFile}: declared {c.declared.display}, " ++
    s!"resolved {c.resolved.display}"⟩

/-- What was done with an output. -/
def Rendered.detail (r : Rendered) : Detail :=
  ⟨.writing, match r.verdict with
    | .unchanged => s!"unchanged: {r.output.display}"
    | .wouldWrite => s!"[dry-run] would write: {r.output.display}"
    | .written => s!"wrote: {r.output.display} ({r.encoding.display})"⟩

def Outcome.details : Outcome → List Detail
  | rendered r => [r.choice.detail, r.detail]
  | skipped _ _ => []
  | failed p e choice =>
    choice.toList.map EncodingChoice.detail ++ [⟨.build, s!"{p.display} failed: {e.record}"⟩]

def Batch.details (b : Batch) : List Detail := b.units.flatMap Outcome.details

namespace CommandLine

/-- A text with all its lines but the first moved to the right. -/
def hanging (width : Nat) (s : String) : String := String.ofList (Text.hang width s.toList)

end CommandLine

/-- A detail as it is printed. Where a control sequence in it never ends, neither does its line. -/
def Detail.display (d : Detail) : String :=
  CommandLine.ControlSequence.strip
    s!"[DEBUG {d.topic.name}] {CommandLine.hanging 4 d.text}\n"

end MustacheBuild
