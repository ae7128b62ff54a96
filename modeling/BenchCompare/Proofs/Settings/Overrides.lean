import BenchCompare.Settings.Config

/-!
# Settings from several sources

A setting can be given in several sources, and is taken from the first one that has it
(`IsTakenFrom`).  Sources of the same setting can be put in front of each other: what replaces the
values of some sources is taken from the new ones first (`IsTakenFrom.onTop`).

Every variable of the environment overrides one setting, and leaves the others alone
(`Config.exists_of_override_eq_ok`).  So the settings after the environment was applied are the
overlay of its values over the settings before (`Config.IsOverlay.of_applyEnvironment`).
-/

namespace BenchCompare

/-! ### The first source -/

/-- A value is taken from the first source that has the setting.  A source may lack it; if it has it,
then as something that has to be read, which may be impossible. -/
inductive IsTakenFrom {α : Type} (value : α) : List (Option (Option α)) → Prop
  | here (others : List (Option (Option α))) : IsTakenFrom value (some (some value) :: others)
  | later {others : List (Option (Option α))} (h : IsTakenFrom value others) :
    IsTakenFrom value (none :: others)

namespace IsTakenFrom

variable {α : Type} {value base : α} {others : List (Option (Option α))}

/-- A value that replaces another one, if it is given, is taken from a source in front of those of the
other value. -/
theorem getD (given : Option α) (hbase : IsTakenFrom base others) :
    IsTakenFrom (given.getD base) (given.map some :: others) := by
  cases given with
  | none => exact .later hbase
  | some value => exact .here _

/-- The sources of a value can be put in the place of the value. -/
theorem onTop {source : Option (Option α)} (h : IsTakenFrom value [source, some (some base)])
    (hbase : IsTakenFrom base others) : IsTakenFrom value (source :: others) := by
  cases h with
  | here => exact .here _
  | later h =>
    cases h
    exact .later hbase

/-- What is read from a value is taken from what is read from its sources. -/
theorem read {β : Type} (read? : α → Option β) {result : β} (h : IsTakenFrom value others)
    (hread : read? value = some result) :
    IsTakenFrom result (others.map (Option.map fun source => source.bind read?)) := by
  induction h with
  | here =>
    simp only [List.map_cons, Option.map_some, Option.bind_some, hread]
    exact .here _
  | later _ ih => exact .later ih

end IsTakenFrom

/-! ### Variables of the environment -/

/-- The length of a side in a text: a whole number of 32 bits, with blanks around it. -/
def readPixels (text : String) : Option UInt32 :=
  (Numeral.word32 (Text.trim text.toList)).toOption

namespace Config

/-- A length that was read. -/
theorem readPixels_of_pixels (name text : String) (n : UInt32) (h : pixels name text = .ok n) :
    readPixels text = some n := by
  unfold pixels at h
  rw [readPixels]
  cases hword : Numeral.word32 (Text.trim text.toList) with
  | error fault =>
    rw [hword] at h
    cases h
  | ok m =>
    rw [hword] at h
    cases h
    rfl

/-- A choice of metrics that was read. -/
theorem ofName?_of_selection (name text : String) (metrics : Selection)
    (h : selection name text = .ok metrics) : Selection.ofName? text = some metrics := by
  unfold selection at h
  cases hname : Selection.ofName? text with
  | none =>
    rw [hname] at h
    cases h
  | some found =>
    rw [hname] at h
    cases h
    rfl

/-- An override sets one value, which is taken from the variable or else from the settings. -/
theorem exists_of_override_eq_ok {α : Type} (get : Config → α) (read? : String → Option α)
    {text? : Option String} {read : String → Except OverrideFault α}
    {set : Config → α → Config} {config result : Config} (hself : set config (get config) = config)
    (hread : ∀ text value, read text = .ok value → read? text = some value)
    (h : override text? read set config = .ok result) :
    ∃ value, result = set config value
      ∧ IsTakenFrom value [text?.map read?, some (some (get config))] := by
  cases text? with
  | none =>
    cases h
    exact ⟨get config, hself.symm, .later (.here _)⟩
  | some text =>
    unfold override at h
    cases hvalue : read text with
    | error fault =>
      simp only [hvalue, Except.map] at h
      cases h
    | ok value =>
      simp only [hvalue, Except.map] at h
      cases h
      refine ⟨value, rfl, ?_⟩
      rw [Option.map_some, hread text value hvalue]
      exact .here _

/-- Overrides succeed if the first one does and then the others do. -/
theorem applyEach_cons_eq_none_iff {config result : Config} {next : Override}
    {rest : List Override} :
    applyEach config (next :: rest) = (result, none) ↔
      ∃ middle, next config = .ok middle ∧ applyEach middle rest = (result, none) := by
  rw [applyEach]
  cases next config with
  | error fault => simp
  | ok middle => simp

/-- Settings with the values of environment variables in place of others: every setting is taken from
its variable or else from the settings before. -/
structure IsOverlay (config : Config) (e : Environment) (result : Config) : Prop where
  title : IsTakenFrom result.title [e.title.map some, some (some config.title)]
  output : IsTakenFrom result.output
    [e.output.map fun text => some ⟨text⟩, some (some config.output)]
  width : IsTakenFrom result.width [e.width.map readPixels, some (some config.width)]
  height : IsTakenFrom result.height [e.height.map readPixels, some (some config.height)]
  metrics : IsTakenFrom result.metrics
    [e.metric.map Selection.ofName?, some (some config.metrics)]
  format : IsTakenFrom result.format [e.format.map some, some (some config.format)]
  source : result.source = config.source

/-- Overrides that all succeed give an overlay. -/
theorem IsOverlay.of_applyEach {config result : Config} {e : Environment}
    (h : applyEach config (overrides e) = (result, none)) : IsOverlay config e result := by
  unfold overrides at h
  obtain ⟨first, htitle, h⟩ := applyEach_cons_eq_none_iff.mp h
  obtain ⟨second, houtput, h⟩ := applyEach_cons_eq_none_iff.mp h
  obtain ⟨third, hwidth, h⟩ := applyEach_cons_eq_none_iff.mp h
  obtain ⟨fourth, hheight, h⟩ := applyEach_cons_eq_none_iff.mp h
  obtain ⟨fifth, hmetrics, h⟩ := applyEach_cons_eq_none_iff.mp h
  obtain ⟨sixth, hformat, h⟩ := applyEach_cons_eq_none_iff.mp h
  cases h
  have hplain : ∀ text value : String,
      (Except.ok text : Except OverrideFault String) = .ok value → some text = some value :=
    fun _ _ hvalue => congrArg some (Except.ok.inj hvalue)
  -- The settings on the way are written out, for updates of updates would grow too large.
  obtain ⟨title, hfirst, htitleFrom⟩ :=
    exists_of_override_eq_ok Config.title some rfl hplain htitle
  obtain rfl : first = { config with title } := hfirst
  obtain ⟨output, hsecond, houtputFrom⟩ :=
    exists_of_override_eq_ok (fun config => config.output.text) some rfl hplain houtput
  obtain rfl : second = { config with title, output := ⟨output⟩ } := hsecond
  obtain ⟨width, hthird, hwidthFrom⟩ :=
    exists_of_override_eq_ok Config.width readPixels rfl (readPixels_of_pixels _) hwidth
  obtain rfl : third = { config with title, output := ⟨output⟩, width } := hthird
  obtain ⟨height, hfourth, hheightFrom⟩ :=
    exists_of_override_eq_ok Config.height readPixels rfl (readPixels_of_pixels _) hheight
  obtain rfl : fourth = { config with title, output := ⟨output⟩, width, height } := hfourth
  obtain ⟨metrics, hfifth, hmetricsFrom⟩ :=
    exists_of_override_eq_ok Config.metrics Selection.ofName? rfl (ofName?_of_selection _) hmetrics
  obtain rfl : fifth = { config with title, output := ⟨output⟩, width, height, metrics } := hfifth
  obtain ⟨format, hsixth, hformatFrom⟩ :=
    exists_of_override_eq_ok Config.format some rfl hplain hformat
  obtain rfl : result = { config with title, output := ⟨output⟩, width, height, metrics, format } :=
    hsixth
  have hpathFrom := houtputFrom.read (fun text => some (Path.mk text)) rfl
  rw [List.map_cons, Option.map_map] at hpathFrom
  exact ⟨htitleFrom, hpathFrom, hwidthFrom, hheightFrom, hmetricsFrom, hformatFrom, rfl⟩

/-- If the environment could be applied, the settings are an overlay, and valid. -/
theorem IsOverlay.of_applyEnvironment {config result : Config} {e : Environment}
    (h : applyEnvironment config e = (result, none)) :
    IsOverlay config e result ∧ result.fault? = none := by
  unfold applyEnvironment at h
  rcases heach : applyEach config (overrides e) with ⟨last, _ | fault⟩
  · rw [heach] at h
    obtain ⟨rfl, hfault⟩ := Prod.mk.inj h
    exact ⟨.of_applyEach heach, Option.map_eq_none_iff.mp hfault⟩
  · rw [heach] at h
    cases h

end Config

end BenchCompare
