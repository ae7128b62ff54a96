import BenchCompare.Proofs.Settings.Json
import BenchCompare.Proofs.Yaml.Numbers
import BenchCompare.Proofs.Yaml.ReadBack
import BenchCompare.Settings.Load

/-!
# Settings are read back

Settings that are saved under a path are loaded from there again, with that path for their source
(`Config.load_textFor`).  Their text is in YAML or in JSON, as the path asks for, and so is the text
that is expected there; in either format all settings are read back (`FileSettings.ofYaml?_toYaml`,
`FileSettings.ofJson_toJson`), whatever characters their texts have.
-/

namespace BenchCompare

namespace Yaml

/-- The entry with a text. -/
def WrittenEntry.ofText (name value : String) (h : IsName name.toList) : WrittenEntry where
  name := name.toList
  text := value.toList
  style := styleOf value.toList
  written := writtenText value.toList
  isName := h
  isWritten := isWritten_writtenText value.toList

/-- The entry with a number. -/
def WrittenEntry.ofNumber (name : String) (value : Nat) (h : IsName name.toList) : WrittenEntry where
  name := name.toList
  text := Numeral.digits value
  style := .plain
  written := Numeral.digits value ++ ['\n']
  isName := h
  isWritten := isWritten_digits value

end Yaml

namespace Config

open Yaml

/-- The names of the settings are names of entries. -/
theorem isName_of_mem_fieldNames {name : String} (h : name ∈ fieldNames) : IsName name.toList := by
  have htable : ∀ name ∈ fieldNames, name.toList ≠ [] ∧ name.toList.all Char.isLower = true
      ∧ name.toList.length ≤ Scan.keyLimit := by
    decide
  obtain ⟨hne, hlower, hlength⟩ := htable name h
  exact ⟨hne, List.all_eq_true.mp hlower, hlength⟩

/-- The entries in which settings are written. -/
def entries (config : Config) : List WrittenEntry :=
  [.ofText "title" config.title (isName_of_mem_fieldNames (by decide)),
    .ofText "output" config.output.text (isName_of_mem_fieldNames (by decide)),
    .ofNumber "width" config.width.toNat (isName_of_mem_fieldNames (by decide)),
    .ofNumber "height" config.height.toNat (isName_of_mem_fieldNames (by decide)),
    .ofText "metric" config.metrics.key (isName_of_mem_fieldNames (by decide)),
    .ofText "format" config.format (isName_of_mem_fieldNames (by decide))]

/-- Settings in YAML are their entries. -/
theorem toYaml_eq (config : Config) :
    config.toYaml = String.ofList (config.entries.flatMap WrittenEntry.chars) := by
  simp [toYaml, entries, WrittenEntry.ofText, WrittenEntry.ofNumber, WrittenEntry.chars, textEntry,
    numberEntry]

end Config

namespace FileSettings

/-- The values of entries by their names. -/
def valuesOf (entries : List Yaml.WrittenEntry) : List (String × YamlValue) :=
  entries.map fun entry => (String.ofList entry.name, YamlValue.text entry.text entry.style)

/-- The keys of entries are texts. -/
theorem namedValues?_map_ofEntry (entries : List Yaml.WrittenEntry) :
    namedValues? (entries.map YamlValue.ofEntry) = some (valuesOf entries) := by
  induction entries with
  | nil => rfl
  | cons entry entries ih =>
    rw [List.map_cons, YamlValue.ofEntry, namedValues?, ih]
    rfl

/-- A text is read back, however it is written. -/
theorem asText?_text (s : String) (style : Yaml.ScalarStyle) :
    (YamlValue.text s.toList style).asText? = some s := by
  rw [YamlValue.text, YamlValue.asText?, String.ofList_toList]

/-- A count is read back from its digits. -/
theorem asCount32?_text (n : UInt32) :
    (YamlValue.text (Numeral.digits n.toNat) .plain).asCount32? = some n := by
  have hle : n.toNat ≤ UInt32.size - 1 := Nat.le_pred_of_lt n.toNat_lt_size
  have hplain : YamlValue.isPlainOrTagged "tag:yaml.org,2002:int"
      ⟨Numeral.digits n.toNat, none, .plain⟩ = true := rfl
  rw [YamlValue.text, YamlValue.asCount32?, if_pos hplain, Yaml.natural?_digits hle, Option.map_some,
    UInt32.ofNat_toNat]

/-- A choice of metrics is read back from its name, however that is written. -/
theorem asSelection?_text (selection : Selection) (style : Yaml.ScalarStyle) :
    (YamlValue.text selection.key.toList style).asSelection? = some selection := by
  have hkey : Selection.ofKey? selection.key = some selection := by
    cases selection <;> rfl
  rw [YamlValue.text, YamlValue.asSelection?]
  simp only [YamlValue.ownTag?, String.ofList_toList, hkey]

/-- A setting is read from the value under its name. -/
theorem setting?_eq_some {α : Type} {read? : YamlValue → Option α} {name : String}
    {values : List (String × YamlValue)} {value : YamlValue} {a : α}
    (hlookup : values.lookup name = some value) (hread : read? value = some a) :
    setting? read? name values = some (some a) := by
  rw [setting?, hlookup]
  simp only [hread, Option.map_some]

/-- **Settings are read back from YAML.** -/
theorem ofYaml?_toYaml (config : Config) : ofYaml? config.toYaml = some config.toFile := by
  have hne : config.entries ≠ [] := List.cons_ne_nil _ _
  have hparse := YamlValue.parse?_entries hne
  have hvalues := namedValues?_map_ofEntry config.entries
  have hnames : ((valuesOf config.entries).map Prod.fst).filter Config.fieldNames.contains =
      Config.fieldNames := by
    rfl
  have hnodup : Config.fieldNames.Nodup := by decide
  have htitle : setting? YamlValue.asText? "title" (valuesOf config.entries) =
      some (some config.title) := setting?_eq_some rfl (asText?_text config.title _)
  have houtput : setting? YamlValue.asText? "output" (valuesOf config.entries) =
      some (some config.output.text) := setting?_eq_some rfl (asText?_text config.output.text _)
  have hwidth : setting? YamlValue.asCount32? "width" (valuesOf config.entries) =
      some (some config.width) := setting?_eq_some rfl (asCount32?_text config.width)
  have hheight : setting? YamlValue.asCount32? "height" (valuesOf config.entries) =
      some (some config.height) := setting?_eq_some rfl (asCount32?_text config.height)
  have hmetrics : setting? YamlValue.asSelection? "metric" (valuesOf config.entries) =
      some (some config.metrics) := setting?_eq_some rfl (asSelection?_text config.metrics _)
  have hformat : setting? YamlValue.asText? "format" (valuesOf config.entries) =
      some (some config.format) := setting?_eq_some rfl (asText?_text config.format _)
  rw [ofYaml?, Config.toYaml_eq, hparse]
  simp only [Option.bind_eq_bind, Option.bind_some, ofYamlValue?, ofEntries?, hvalues, hnames,
    if_pos hnodup, htitle, houtput, hwidth, hheight, hmetrics, hformat]
  rfl

end FileSettings

namespace Config

/-- All settings of a file replace all defaults. -/
theorem ofFile_toFile (config : Config) : ofFile config.toFile = { config with source := none } := by
  rfl

/-- Whether settings are valid does not depend on where they come from. -/
theorem fault?_source (config : Config) (source : Option Path) :
    fault? { config with source } = config.fault? := by
  rfl

/-- Settings are read back from their text, in the format of a path. -/
theorem readSettings_textFor (config : Config) (path : Path) :
    readSettings path (config.textFor path) = .ok config.toFile := by
  rw [readSettings, textFor]
  cases path.isYaml with
  | true => simp only [if_true, FileSettings.ofYaml?_toYaml]
  | false => simp only [Bool.false_eq_true, if_false, FileSettings.ofJson_toJson]

/-- **Saved settings are loaded again.**  Valid settings whose text is in a file are loaded from it,
and their source is the file. -/
theorem load_textFor {config : Config} (hvalid : config.fault? = none) {files : FileView}
    {path : Path} (hsaved : files.readText path = .ok (config.textFor path)) :
    load files path = .ok { config with source := some path } := by
  have hparse : parse path (config.textFor path) = .ok { config with source := some path } := by
    rw [parse, readSettings_textFor]
    simp only [ofFile_toFile, fault?_source, hvalid]
  rw [load, hsaved]
  simp only [hparse]

/-- Settings whose texts look like something else in YAML, or have line breaks and quotes. -/
def quotedSettings : Config where
  title := "'A': \"B\"\n # both\n\n"
  output := ⟨"~"⟩
  width := 1
  metrics := .p99
  format := "JSON-Pretty"

/-- These settings in YAML. -/
def quotedYaml : String :=
  "title: |+\n  'A': \"B\"\n   # both\n\noutput: '~'\n"
    ++ "width: 1\nheight: 600\nmetric: p99\nformat: JSON-Pretty\n"

/-- These settings in JSON. -/
def quotedJson : String :=
  "\x7b\n  \"title\": \"'A': \\\"B\\\"\\n # both\\n\\n\",\n  \"output\": \"~\",\n"
    ++ "  \"width\": 1,\n  \"height\": 600,\n  \"metric\": \"p99\",\n"
    ++ "  \"format\": \"JSON-Pretty\"\n\x7d"

/-- A file with the settings in each format. -/
def quotedFiles : FileView where
  readText path := .ok (if path.text = "a.yml" then quotedYaml else quotedJson)
  isFile := fun _ => true
  isDirectory := fun _ => false
  canWrite := fun _ => false

/-- The settings are loaded from both files. -/
theorem load_quotedFiles :
    load quotedFiles ⟨"a.yml"⟩ = .ok { quotedSettings with source := some ⟨"a.yml"⟩ }
      ∧ load quotedFiles ⟨"a"⟩ = .ok { quotedSettings with source := some ⟨"a"⟩ } := by
  have hvalid : quotedSettings.fault? = none := by decide +kernel
  have hyaml : quotedYaml = quotedSettings.textFor ⟨"a.yml"⟩ := by decide +kernel
  have hjson : quotedJson = quotedSettings.textFor ⟨"a"⟩ := by decide +kernel
  exact ⟨load_textFor hvalid (congrArg Except.ok hyaml),
    load_textFor hvalid (congrArg Except.ok hjson)⟩

end Config

end BenchCompare
