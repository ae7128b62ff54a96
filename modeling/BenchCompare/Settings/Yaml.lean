import BenchCompare.Settings.Config
import BenchCompare.Yaml.Printer
import BenchCompare.Yaml.Value

/-!
# Settings in YAML

A settings file is a mapping.  Texts may be written as scalars of any kind, sizes only as plain
ones.  Keys that name no setting are passed over, whatever their values are; no setting may be given
twice.  A file without any value gives no settings.
-/

namespace BenchCompare

namespace YamlValue

/-- Whether a scalar is written plainly, or as a block with the given tag. -/
def isPlainOrTagged (tag : String) (s : YamlScalar) : Bool :=
  s.style == .plain || (s.style == .literal && s.tag == some tag.toList)

/-- A whole number of 32 bits. -/
def asCount32? : YamlValue → Option UInt32
  | scalar s =>
    if isPlainOrTagged "tag:yaml.org,2002:int" s then
      (Yaml.natural? (UInt32.size - 1) s.text).map UInt32.ofNat
    else none
  | _ => none

/-- The name in the tag of a scalar, if the tag belongs to the file. -/
def ownTag? (s : YamlScalar) : Option (List Char) :=
  match s.tag with
  | some ('!' :: c :: rest) => some (c :: rest)
  | _ => none

/-- A choice of metrics: its name, or a tag with its name in front of no value. -/
def asSelection? : YamlValue → Option Selection
  | scalar s =>
    match ownTag? s with
    | none => Selection.ofKey? (String.ofList s.text)
    | some key =>
      if s.style == .plain && Yaml.looksNull s.text then Selection.ofKey? (String.ofList key)
      else none
  | _ => none

end YamlValue

namespace FileSettings

/-- The values by their keys, which have to be texts. -/
def namedValues? : List (YamlValue × YamlValue) → Option (List (String × YamlValue))
  | [] => some []
  | (key, value) :: rest => do
    let name ← key.asText?
    return (name, value) :: (← namedValues? rest)

/-- A setting that may be missing. -/
def setting? {α : Type} (read? : YamlValue → Option α) (name : String)
    (values : List (String × YamlValue)) : Option (Option α) :=
  match values.lookup name with
  | none => some none
  | some value => (read? value).map some

/-- The settings in the entries of a mapping. -/
def ofEntries? (entries : List (YamlValue × YamlValue)) : Option FileSettings := do
  let values ← namedValues? entries
  let known := (values.map Prod.fst).filter Config.fieldNames.contains
  if known.Nodup then
    return {
      title := ← setting? YamlValue.asText? "title" values
      output := (← setting? YamlValue.asText? "output" values).map Path.mk
      width := ← setting? YamlValue.asCount32? "width" values
      height := ← setting? YamlValue.asCount32? "height" values
      metrics := ← setting? YamlValue.asSelection? "metric" values
      format := ← setting? YamlValue.asText? "format" values }
  else none

/-- The settings in a value. -/
def ofYamlValue? : YamlValue → Option FileSettings
  | .mapping entries => ofEntries? entries
  | .scalar s => if s.style == .plain && s.text.isEmpty then some {} else none
  | _ => none

/-- Reads settings in YAML. -/
def ofYaml? (text : String) : Option FileSettings := do
  match ← YamlValue.parse? text with
  | none => return {}
  | some value => ofYamlValue? value

end FileSettings

/-- The settings in YAML. -/
def Config.toYaml (config : Config) : String :=
  String.ofList <|
    Yaml.textEntry "title" config.title ++ Yaml.textEntry "output" config.output.text
      ++ Yaml.numberEntry "width" config.width.toNat
      ++ Yaml.numberEntry "height" config.height.toNat
      ++ Yaml.textEntry "metric" config.metrics.key ++ Yaml.textEntry "format" config.format

end BenchCompare
