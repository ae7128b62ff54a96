import BenchCompare.Proofs.Settings.Members
import BenchCompare.Settings.Load
import Mathlib.Data.List.Induction

/-!
# The keys of a settings file

A settings file is a mapping in YAML or an object in JSON, and each key in it that names a setting
gives that setting.  A setting without its key is not given, and other keys give nothing
(`FileSettings.AreGivenBy`).

In YAML the values are looked up by their keys once all of them are there
(`FileSettings.areGivenBy_of_ofEntries?`).  In JSON they are added member by member, so the members
so far give the settings so far (`FileSettings.areGivenBy_of_ofJson`).
-/

namespace BenchCompare

/-! ### Settings and keys -/

/-- A setting is what is read from the values under its key; without any such value it is not
given. -/
structure IsGivenBy {V α : Type} (under : V → Prop) (read? : V → Option α) (setting : Option α) :
    Prop where
  given : ∀ value, under value → ∃ a, read? value = some a ∧ setting = some a
  missing : (∀ value, ¬ under value) → setting = none

/-- How the values of settings are read: texts, lengths of sides, and choices of metrics. -/
structure SettingReaders (V : Type) where
  text? : V → Option String
  count32? : V → Option UInt32
  selection? : V → Option Selection

/-- Settings are given by the values under their keys. -/
structure FileSettings.AreGivenBy {V : Type} (under : String → V → Prop) (readers : SettingReaders V)
    (s : FileSettings) : Prop where
  title : IsGivenBy (under "title") readers.text? s.title
  output : IsGivenBy (under "output") (fun value => (readers.text? value).map Path.mk) s.output
  width : IsGivenBy (under "width") readers.count32? s.width
  height : IsGivenBy (under "height") readers.count32? s.height
  metrics : IsGivenBy (under "metric") readers.selection? s.metrics
  format : IsGivenBy (under "format") readers.text? s.format

namespace IsGivenBy

variable {V α : Type} {read? : V → Option α} {key name : String} {value : V} {setting : Option α}
  {earlier : List (String × V)}

/-- A setting that is not given yet is given by a member with its key. -/
theorem set {a : α} (h : IsGivenBy (fun other => (key, other) ∈ earlier) read? none)
    (hread : read? value = some a) :
    IsGivenBy (fun other => (key, other) ∈ earlier ++ [(key, value)]) read? (some a) where
  given other hmem := by
    rcases List.mem_append.mp hmem with hmem | hmem
    · obtain ⟨b, -, hb⟩ := h.given other hmem
      cases hb
    · cases List.mem_singleton.mp hmem
      exact ⟨a, hread, rfl⟩
  missing hnone := absurd (List.mem_append_right _ List.mem_cons_self) (hnone value)

/-- A member with another key changes nothing. -/
theorem keep (h : IsGivenBy (fun other => (key, other) ∈ earlier) read? setting)
    (hname : name ≠ key) :
    IsGivenBy (fun other => (key, other) ∈ earlier ++ [(name, value)]) read? setting where
  given other hmem := by
    rcases List.mem_append.mp hmem with hmem | hmem
    · exact h.given other hmem
    · cases List.mem_singleton.mp hmem
      exact absurd rfl hname
  missing hnone := h.missing fun other hmem => hnone other (List.mem_append_left _ hmem)

/-- What is given is given after it is changed, too. -/
theorem map {β : Type} {under : V → Prop} (h : IsGivenBy under read? setting) (f : α → β) :
    IsGivenBy under (fun value => (read? value).map f) (setting.map f) where
  given value hvalue := by
    obtain ⟨a, hread, rfl⟩ := h.given value hvalue
    exact ⟨f a, congrArg (Option.map f) hread, rfl⟩
  missing hnone := congrArg (Option.map f) (h.missing hnone)

end IsGivenBy

namespace FileSettings

/-- How settings are read from JSON values. -/
def jsonReaders : SettingReaders Json :=
  ⟨Json.asText?, Json.asCount32?, Json.asSelection?⟩

/-- The settings given by members are given by these members and the next one, when it is added. -/
theorem AreGivenBy.withMember {earlier : List (String × Json)} {name : String} {value : Json}
    {s s' : FileSettings} (h : s.AreGivenBy (fun key value => (key, value) ∈ earlier) jsonReaders)
    (hadd : s.withMember? (name, value) = some s') :
    s'.AreGivenBy (fun key value' => (key, value') ∈ earlier ++ [(name, value)]) jsonReaders := by
  unfold withMember? at hadd
  split at hadd
  · cases hadd
  next hgiven =>
  simp only at hgiven hadd
  split at hadd
  · obtain ⟨title, hread, rfl⟩ := Option.map_eq_some_iff.mp hadd
    have hnone : s.title = none := by simpa [isGiven] using hgiven
    exact ⟨.set (hnone ▸ h.title) hread, h.output.keep (by decide), h.width.keep (by decide),
      h.height.keep (by decide), h.metrics.keep (by decide), h.format.keep (by decide)⟩
  · obtain ⟨output, hread, rfl⟩ := Option.map_eq_some_iff.mp hadd
    have hnone : s.output = none := by simpa [isGiven] using hgiven
    have hpath : (value.asText?).map Path.mk = some ⟨output⟩ := congrArg (Option.map Path.mk) hread
    exact ⟨h.title.keep (by decide), .set (hnone ▸ h.output) hpath, h.width.keep (by decide),
      h.height.keep (by decide), h.metrics.keep (by decide), h.format.keep (by decide)⟩
  · obtain ⟨width, hread, rfl⟩ := Option.map_eq_some_iff.mp hadd
    have hnone : s.width = none := by simpa [isGiven] using hgiven
    exact ⟨h.title.keep (by decide), h.output.keep (by decide), .set (hnone ▸ h.width) hread,
      h.height.keep (by decide), h.metrics.keep (by decide), h.format.keep (by decide)⟩
  · obtain ⟨height, hread, rfl⟩ := Option.map_eq_some_iff.mp hadd
    have hnone : s.height = none := by simpa [isGiven] using hgiven
    exact ⟨h.title.keep (by decide), h.output.keep (by decide), h.width.keep (by decide),
      .set (hnone ▸ h.height) hread, h.metrics.keep (by decide), h.format.keep (by decide)⟩
  · obtain ⟨metrics, hread, rfl⟩ := Option.map_eq_some_iff.mp hadd
    have hnone : s.metrics = none := by simpa [isGiven] using hgiven
    exact ⟨h.title.keep (by decide), h.output.keep (by decide), h.width.keep (by decide),
      h.height.keep (by decide), .set (hnone ▸ h.metrics) hread, h.format.keep (by decide)⟩
  · obtain ⟨format, hread, rfl⟩ := Option.map_eq_some_iff.mp hadd
    have hnone : s.format = none := by simpa [isGiven] using hgiven
    exact ⟨h.title.keep (by decide), h.output.keep (by decide), h.width.keep (by decide),
      h.height.keep (by decide), h.metrics.keep (by decide), .set (hnone ▸ h.format) hread⟩
  · next htitle houtput hwidth hheight hmetric hformat =>
    cases hadd
    exact ⟨h.title.keep htitle, h.output.keep houtput, h.width.keep hwidth, h.height.keep hheight,
      h.metrics.keep hmetric, h.format.keep hformat⟩

/-- Without any member nothing is given. -/
theorem areGivenBy_nil :
    AreGivenBy (fun key value => (key, value) ∈ ([] : List (String × Json))) jsonReaders {} := by
  have hnone : ∀ {α : Type} (key : String) (read? : Json → Option α),
      IsGivenBy (fun value => (key, value) ∈ ([] : List (String × Json))) read? none :=
    fun key read? => ⟨fun _ hmem => absurd hmem List.not_mem_nil, fun _ => rfl⟩
  exact ⟨hnone _ _, hnone _ _, hnone _ _, hnone _ _, hnone _ _, hnone _ _⟩

/-- **The settings in an object are given by its members.** -/
theorem areGivenBy_of_ofJson {text : String} {members : List (String × Json)} {s : FileSettings}
    (hvalue : Json.parse? text = some (.object members)) (h : ofJson text = .ok s) :
    s.AreGivenBy (fun key value => (key, value) ∈ members) jsonReaders := by
  have hadded := foldlM_withMember?_of_ofJson hvalue h
  clear hvalue h
  induction members using List.reverseRecOn generalizing s with
  | nil =>
    cases hadded
    exact areGivenBy_nil
  | append_singleton earlier member ih =>
    rw [List.foldlM_append] at hadded
    obtain ⟨middle, hearlier, hlast⟩ := Option.bind_eq_some_iff.mp hadded
    rw [List.foldlM_cons] at hlast
    obtain ⟨last, hlast, heq⟩ := Option.bind_eq_some_iff.mp hlast
    cases heq
    exact (ih hearlier).withMember hlast

/-! ### Mappings -/

/-- How settings are read from YAML values. -/
def yamlReaders : SettingReaders YamlValue :=
  ⟨YamlValue.asText?, YamlValue.asCount32?, YamlValue.asSelection?⟩

/-- The named values are the values of entries whose keys are texts. -/
theorem mem_namedValues?_iff {entries : List (YamlValue × YamlValue)}
    {values : List (String × YamlValue)} (h : namedValues? entries = some values) {key : String}
    {value : YamlValue} :
    (key, value) ∈ values ↔ ∃ name, (name, value) ∈ entries ∧ name.asText? = some key := by
  induction entries generalizing values with
  | nil =>
    cases h
    simp
  | cons entry entries ih =>
    obtain ⟨first, firstValue⟩ := entry
    obtain ⟨name, hname, h⟩ := Option.bind_eq_some_iff.mp h
    obtain ⟨rest, hrest, h⟩ := Option.bind_eq_some_iff.mp h
    cases h
    rw [List.mem_cons, ih hrest]
    constructor
    · rintro (heq | ⟨other, hmem, hother⟩)
      · cases heq
        exact ⟨first, List.mem_cons_self, hname⟩
      · exact ⟨other, List.mem_cons_of_mem _ hmem, hother⟩
    · rintro ⟨other, hmem, hother⟩
      rcases List.mem_cons.mp hmem with heq | hmem
      · cases heq
        rw [hname] at hother
        cases hother
        exact .inl rfl
      · exact .inr ⟨other, hmem, hother⟩

/-- A value is found under its name, if no name among the known ones is used twice. -/
theorem lookup_eq_some_of_mem {V : Type} {known : List String} {values : List (String × V)}
    (hnodup : ((values.map Prod.fst).filter known.contains).Nodup) {key : String}
    (hkey : key ∈ known) {value : V} (hmem : (key, value) ∈ values) :
    values.lookup key = some value := by
  induction values with
  | nil => cases hmem
  | cons first rest ih =>
    obtain ⟨name, firstValue⟩ := first
    rw [List.map_cons, List.filter_cons] at hnodup
    rcases List.mem_cons.mp hmem with heq | hmem
    · cases heq
      exact List.lookup_cons_self
    · have hrest : key ∈ (rest.map Prod.fst).filter known.contains :=
        List.mem_filter.mpr ⟨List.mem_map_of_mem hmem, List.contains_iff_mem.mpr hkey⟩
      have hne : key ≠ name := by
        rintro rfl
        rw [if_pos (List.contains_iff_mem.mpr hkey)] at hnodup
        exact (List.nodup_cons.mp hnodup).1 hrest
      rw [List.lookup_cons, beq_eq_false_iff_ne.mpr hne]
      refine ih ?_ hmem
      split at hnodup
      · exact (List.nodup_cons.mp hnodup).2
      · exact hnodup

/-- A setting of a mapping is given by its key. -/
theorem isGivenBy_of_setting? {α : Type} {read? : YamlValue → Option α}
    {values : List (String × YamlValue)}
    (hnodup : ((values.map Prod.fst).filter Config.fieldNames.contains).Nodup) {key : String}
    (hkey : key ∈ Config.fieldNames) {setting : Option α}
    (h : setting? read? key values = some setting) :
    IsGivenBy (fun value => (key, value) ∈ values) read? setting where
  given value hmem := by
    rw [setting?, lookup_eq_some_of_mem hnodup hkey hmem] at h
    obtain ⟨a, hread, rfl⟩ := Option.map_eq_some_iff.mp h
    exact ⟨a, hread, rfl⟩
  missing hnone := by
    have hlookup : values.lookup key = none := by
      rw [List.lookup_eq_none_iff]
      rintro ⟨name, value⟩ hmem
      refine bne_iff_ne.mpr ?_
      rintro rfl
      exact hnone value hmem
    rw [setting?, hlookup] at h
    exact (Option.some.inj h).symm

/-- **The settings in a mapping are given by its entries.** -/
theorem areGivenBy_of_ofEntries? {entries : List (YamlValue × YamlValue)} {s : FileSettings}
    (h : ofEntries? entries = some s) :
    s.AreGivenBy (fun key value => ∃ name, (name, value) ∈ entries ∧ name.asText? = some key)
      yamlReaders := by
  unfold ofEntries? at h
  obtain ⟨values, hvalues, h⟩ := Option.bind_eq_some_iff.mp h
  simp only at h
  split at h
  · next hnodup =>
    obtain ⟨title, htitle, h⟩ := Option.bind_eq_some_iff.mp h
    obtain ⟨output, houtput, h⟩ := Option.bind_eq_some_iff.mp h
    obtain ⟨width, hwidth, h⟩ := Option.bind_eq_some_iff.mp h
    obtain ⟨height, hheight, h⟩ := Option.bind_eq_some_iff.mp h
    obtain ⟨metrics, hmetrics, h⟩ := Option.bind_eq_some_iff.mp h
    obtain ⟨format, hformat, h⟩ := Option.bind_eq_some_iff.mp h
    cases h
    simp only [← mem_namedValues?_iff hvalues]
    have hgiven : ∀ {α : Type} {read? : YamlValue → Option α} {key : String} {setting : Option α},
        key ∈ Config.fieldNames → setting? read? key values = some setting →
          IsGivenBy (fun value => (key, value) ∈ values) read? setting :=
      fun hkey hsetting => isGivenBy_of_setting? hnodup hkey hsetting
    exact ⟨hgiven (by decide) htitle, (hgiven (by decide) houtput).map Path.mk,
      hgiven (by decide) hwidth, hgiven (by decide) hheight, hgiven (by decide) hmetrics,
      hgiven (by decide) hformat⟩
  · cases h

end FileSettings

/-! ### Settings files -/

/-- Settings are given by what a file has under their keys: in the mapping of a YAML file, or in the
object of a JSON file.  A YAML file without a value gives none. -/
structure FileSettings.AreGivenIn (path : Path) (text : String) (s : FileSettings) : Prop where
  mapping {entries : List (YamlValue × YamlValue)} (hpath : path.isYaml = true)
    (htext : YamlValue.parse? text = some (some (.mapping entries))) :
    s.AreGivenBy (fun key value => ∃ name, (name, value) ∈ entries ∧ name.asText? = some key)
      yamlReaders
  object {members : List (String × Json)} (hpath : path.isYaml = false)
    (htext : Json.parse? text = some (.object members)) :
    s.AreGivenBy (fun key value => (key, value) ∈ members) jsonReaders
  empty (hpath : path.isYaml = true) (htext : YamlValue.parse? text = some none) : s = {}

namespace Config

variable {path : Path} {text : String} {settings : FileSettings}

/-- The name of a file decides that it is read as YAML. -/
theorem ofYaml?_of_readSettings (hpath : path.isYaml = true)
    (h : readSettings path text = .ok settings) : FileSettings.ofYaml? text = some settings := by
  unfold readSettings at h
  rw [if_pos hpath] at h
  cases hread : FileSettings.ofYaml? text with
  | none =>
    rw [hread] at h
    cases h
  | some found =>
    rw [hread] at h
    cases h
    rfl

/-- Any other file is read as JSON. -/
theorem ofJson_of_readSettings (hpath : path.isYaml = false)
    (h : readSettings path text = .ok settings) : FileSettings.ofJson text = .ok settings := by
  unfold readSettings at h
  rw [if_neg (Bool.not_eq_true _ ▸ hpath)] at h
  cases hread : FileSettings.ofJson text with
  | error fault =>
    rw [hread] at h
    cases h
  | ok found =>
    rw [hread] at h
    cases h
    rfl

/-- **What a settings file gives.**  A key in the file gives its setting, and a setting without its key
is not given. -/
theorem areGivenIn_of_readSettings (h : readSettings path text = .ok settings) :
    settings.AreGivenIn path text where
  mapping hpath htext := by
    have hread := ofYaml?_of_readSettings hpath h
    unfold FileSettings.ofYaml? at hread
    rw [htext] at hread
    exact FileSettings.areGivenBy_of_ofEntries? hread
  object hpath htext := FileSettings.areGivenBy_of_ofJson htext (ofJson_of_readSettings hpath h)
  empty hpath htext := by
    have hread := ofYaml?_of_readSettings hpath h
    unfold FileSettings.ofYaml? at hread
    rw [htext] at hread
    exact (Option.some.inj hread).symm

end Config

end BenchCompare
