import Mathlib.Data.List.TakeWhile
import MustacheBuild.Proofs.Build.Batch
import MustacheBuild.Proofs.Build.Choice
import MustacheBuild.Proofs.Path.Companions
import MustacheBuild.Proofs.Template.Literal

/-!
A template without tags is copied byte for byte, with its byte-order mark.
-/
namespace MustacheBuild

open BuildM (runFrom)

theorem Text.trim_of_white {t : Text} (h : ∀ c ∈ t, isWhite c = true) : trim t = [] := by
  rw [trim, trimStart, List.dropWhile_eq_nil_iff.2 h]
  rfl

/-- The field for the encoding is absent, null or blank. -/
def Data.NamesNoEncoding (data : Data) : Prop :=
  ∀ value ∈ data.get? DataFile.encodingKey,
    value = .null ∨ ∃ t : Text, value = .text t ∧ ∀ c ∈ t, Text.isWhite c = true

theorem Data.NamesNoEncoding.encodingField {data : Data} (h : data.NamesNoEncoding) (file : Text) :
    ∃ field, DataFile.encodingField data file = .ok field ∧
      DataFile.encodingName? field = none := by
  rw [DataFile.encodingField]
  cases hvalue : data.get? DataFile.encodingKey with
  | none => exact ⟨none, rfl, rfl⟩
  | some value =>
    obtain rfl | ⟨t, rfl, ht⟩ := h value hvalue
    · exact ⟨none, rfl, rfl⟩
    · refine ⟨some t, rfl, ?_⟩
      simp [DataFile.encodingName?, Text.trim_of_white ht]

section
variable {template : Path} {paths : Companions} {s : Memory} {bytes content : Bytes} {data : Data}

/-- A template that names no encoding is loaded as the text that its bytes announce. -/
theorem Memory.runFrom_loadTemplate_of_namesNoEncoding
    (hpaths : Companions.of? template = some paths) (htemplate : s.read template = .ok bytes)
    (hcontent : s.read paths.data = .ok content)
    (hdata : DataFile.load (Encoding.plainUtf8.decode content) paths.data.fileName = .ok data)
    (hnames : data.NamesNoEncoding) :
    ∃ unit : SourceUnit, runFrom (loadTemplate template) s = (.ok (.inr (paths, unit)), s) ∧
      unit.encoding = Encoding.plainUtf8.detect bytes ∧
      unit.template = unit.encoding.decode bytes := by
  obtain ⟨field, hfield, hname⟩ := hnames.encodingField paths.data.fileName
  rw [← Companions.template_of? hpaths] at htemplate
  have hload := runFrom_loadUnit_of_ok (s := s) hcontent hdata hfield htemplate
    (chooseEncoding_of_none hname)
  exact ⟨_, runFrom_loadTemplate_of_ok hpaths (isFile_of_read htemplate) (isFile_of_read hcontent)
    hload, rfl, rfl⟩

/-- A text is written where that is asked for, and where there is no file. -/
theorem Memory.runFrom_writeText_of_missing {mode : WriteMode} {p : Path} (t : Text) (e : Encoding)
    (h : mode = .always ∨ mode = .ifChanged ∧ s.file? p = none) :
    runFrom (writeText mode p t e) s = (.ok .written, s.put p (e.encode t)) := by
  have halways : runFrom (writeText .always p t e) s = (.ok .written, s.put p (e.encode t)) := by
    rw [runFrom_writeText_always, write_eq]
  obtain rfl | ⟨rfl, hmissing⟩ := h
  · exact halways
  · have hfile : Store.isFile s p = false := congrArg Option.isSome hmissing
    rw [runFrom_writeText_ifChanged_of_false (runFrom_isUpToDate_of_missing hfile), halways]

/-- A template that holds no tag and nothing that cannot be decoded, and that names no encoding, is
the output byte for byte. -/
theorem build_copies_tagless_template {mode : WriteMode}
    (hpaths : Companions.of? template = some paths) (htemplate : s.read template = .ok bytes)
    (hcontent : s.read paths.data = .ok content)
    (hdata : DataFile.load (Encoding.plainUtf8.decode content) paths.data.fileName = .ok data)
    (hnames : data.NamesNoEncoding)
    (hread : Encoding.replacement ∉ (Encoding.plainUtf8.detect bytes).decode bytes)
    (htags : ¬ ['{', '{'] <:+: (Encoding.plainUtf8.detect bytes).decode bytes)
    (hmode : mode = .always ∨ mode = .ifChanged ∧ s.file? paths.output = none) :
    ∃ r s', runBatch mode [template] s = (⟨[.rendered r]⟩, s') ∧ r.output = paths.output ∧
      r.verdict = .written ∧ s'.read paths.output = .ok bytes := by
  obtain ⟨unit, hload, hencoding, htext⟩ :=
    Memory.runFrom_loadTemplate_of_namesNoEncoding hpaths htemplate hcontent hdata hnames
  rw [hencoding] at htext
  have hrender : renderWith unit.template unit.templateFile unit.data = .ok unit.template :=
    renderWith_of_notInfix (htext ▸ htags) _ _
  have hunit : runUnit mode template s =
      (.rendered (.ofVerdict paths unit unit.template .written), s.put paths.output bytes) := by
    rw [runUnit_eq, hload]
    dsimp only
    rw [runFrom_writeRendered_of_ok hrender, Memory.runFrom_writeText_of_missing _ _ hmode,
      hencoding, htext, Encoding.encode_decode_detect hread]
    rfl
  refine ⟨.ofVerdict paths unit unit.template .written, s.put paths.output bytes, ?_, rfl, rfl, ?_⟩
  · rw [runBatch_cons, hunit]
    rfl
  · rw [Memory.read, Memory.file?_put_self]

end

/-- Data with a blank field for the encoding. -/
def blankData : Bytes :=
  "\x7b\"$encoding\": \" \"\x7d".toList.map fun c => Encoding.byte c.toNat

/-- A brace and an emoji in UTF-16 with its mark. -/
def taglessTemplate : Bytes := [0xFF, 0xFE, 0x7B, 0x00, 0x3D, 0xD8, 0x00, 0xDE]

def taglessStore : Memory :=
  (Memory.empty.put ⟨"a.txt.mustache".toList⟩ taglessTemplate).put ⟨"a.txt.json".toList⟩ blankData

theorem build_copies_tagless_utf16 :
    ∃ r s', runBatch .ifChanged [⟨"a.txt.mustache".toList⟩] taglessStore = (⟨[.rendered r]⟩, s') ∧
      r.output = ⟨"a.txt".toList⟩ ∧ r.verdict = .written ∧
      s'.read ⟨"a.txt".toList⟩ = .ok taglessTemplate := by
  have hpaths : Companions.of? ⟨"a.txt.mustache".toList⟩ =
      some ⟨⟨"a.txt.mustache".toList⟩, ⟨"a.txt".toList⟩, ⟨"a.txt.json".toList⟩⟩ := by decide
  have hdata : DataFile.load (Encoding.plainUtf8.decode blankData) "a.txt.json".toList =
      .ok (.object [("$encoding".toList, .text [' '])]) := rfl
  have hnames : (Data.object [("$encoding".toList, .text [' '])]).NamesNoEncoding := by
    intro value hvalue
    obtain rfl : Data.text [' '] = value := Option.some.inj hvalue
    exact Or.inr ⟨_, rfl, List.forall_mem_singleton.2 rfl⟩
  exact build_copies_tagless_template hpaths rfl rfl hdata hnames (by decide) (by decide)
    (Or.inr ⟨rfl, rfl⟩)

end MustacheBuild
