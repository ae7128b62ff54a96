import BenchCompare.Proofs.Settings.Precedence

/-!
# What the environment does to the settings

The variables of the environment are applied one after the other.  Three of them have to be read,
which may be impossible; then the variables before that one have been applied, and no others
(`Config.applyEach_overrides_eq_some_iff`).  If all of them could be applied, the settings are the
overlay of their values (`Config.applyEach_overrides_eq_none_iff`), and still they may be invalid.

So there are three ways in which applying an environment can end, and each of them determines the
settings that are left (`Config.applyEnvironment_iff`).  Environments that are applied one after the
other can be put on top of each other first (`Environment.onTopOf`): overlays of overlays are overlays
(`Config.IsOverlay.trans`), and whether the settings are valid is asked of the last ones only.
-/

namespace BenchCompare

/-! ### Environments -/

namespace Environment

/-- One environment on top of another: each variable has its value in the first of them that sets
it. -/
def onTopOf (later earlier : Environment) : Environment where
  output := later.output.or earlier.output
  title := later.title.or earlier.title
  width := later.width.or earlier.width
  height := later.height.or earlier.height
  metric := later.metric.or earlier.metric
  format := later.format.or earlier.format
  configFile := later.configFile.or earlier.configFile
  log := later.log.or earlier.log

/-- The variables whose values have to be read, in the order in which they are applied. -/
inductive ReadVariable where
  | width
  | height
  | metric
  deriving DecidableEq, Repr

/-- The variables that are applied before one whose value has to be read. -/
def before (e : Environment) : ReadVariable → Environment
  | .width => { title := e.title, output := e.output }
  | .height => { title := e.title, output := e.output, width := e.width }
  | .metric => { title := e.title, output := e.output, width := e.width, height := e.height }

end Environment

namespace IsTakenFrom

variable {α : Type} {value : α}

/-- A value is taken from its only source. -/
theorem eq_of_single {base : α} (h : IsTakenFrom value [some (some base)]) : value = base := by
  rcases h with _ | h
  rfl

/-- A value is taken from a source again if it stands for what was there before. -/
theorem again {source : Option (Option α)} {base : α}
    (h : IsTakenFrom value [source, some (some base)]) :
    IsTakenFrom value [source, some (some value)] := by
  rcases h with _ | _
  · exact .here _
  · exact .later (.here _)

/-- A value over a value over a third one is taken from the two sources together. -/
theorem onTop_or {β : Type} (read : β → Option α) {later earlier : Option β} {middle base : α}
    (h : IsTakenFrom value [later.map read, some (some middle)])
    (hmiddle : IsTakenFrom middle [earlier.map read, some (some base)]) :
    IsTakenFrom value [(later.or earlier).map read, some (some base)] := by
  have hsources := h.onTop hmiddle
  rcases later with _ | text
  · rcases hsources with _ | hearlier
    rw [Option.none_or]
    exact hearlier
  · rw [Option.map_some] at hsources
    rw [Option.some_or, Option.map_some]
    generalize read text = value? at hsources ⊢
    rcases hsources with _ | _
    exact .here _

end IsTakenFrom

namespace Config

/-! ### One override -/

section Override

variable {α : Type} {text? : Option String} {read : String → Except OverrideFault α}
  {set : Config → α → Config} {config : Config}

/-- An override fails exactly if its variable is set and cannot be read. -/
theorem override_eq_error_iff {fault : OverrideFault} :
    override text? read set config = .error fault ↔
      ∃ text, text? = some text ∧ read text = .error fault := by
  unfold override
  rcases text? with _ | text
  · simp
  · rcases hread : read text with cause | value <;> simp [Except.map, hread]

/-- An override sets the value that is taken from the variable or else from the settings. -/
theorem override_eq_ok {value : α} (get : Config → α) (read? : String → Option α)
    (hself : set config (get config) = config)
    (hread : ∀ text value, read? text = some value → read text = .ok value)
    (h : IsTakenFrom value [text?.map read?, some (some (get config))]) :
    override text? read set config = .ok (set config value) := by
  unfold override
  rcases text? with _ | text
  · rcases h with _ | h
    rw [h.eq_of_single, hself]
  · rw [Option.map_some] at h
    generalize hvalue : read? text = value? at h
    rcases h with _ | _
    simp only [hread text value hvalue, Except.map]

end Override

/-- A length that can be read is accepted. -/
theorem pixels_of_readPixels (name text : String) (n : UInt32) (h : readPixels text = some n) :
    pixels name text = .ok n := by
  unfold pixels
  unfold readPixels at h
  rcases hword : Numeral.word32 (Text.trim text.toList) with fault | m
  · rw [hword] at h
    cases h
  · rw [hword] at h
    cases h
    rfl

/-- A length that cannot be read is refused with the fault of its digits. -/
theorem pixels_eq_error_iff {name text : String} {fault : OverrideFault} :
    pixels name text = .error fault ↔
      ∃ cause, Numeral.word32 (Text.trim text.toList) = .error cause
        ∧ fault = .badNumber name text cause := by
  unfold pixels
  rcases Numeral.word32 (Text.trim text.toList) with cause | n
  · simp [eq_comm]
  · simp

/-- A choice of metrics that has a name is accepted. -/
theorem selection_of_ofName? (name text : String) (metrics : Selection)
    (h : Selection.ofName? text = some metrics) : selection name text = .ok metrics := by
  unfold selection
  rw [h]

/-- A choice of metrics without a name is refused. -/
theorem selection_eq_error_iff {name text : String} {fault : OverrideFault} :
    selection name text = .error fault ↔
      Selection.ofName? text = none ∧ fault = .unknownMetric name text := by
  unfold selection
  rcases Selection.ofName? text with _ | metrics
  · simp [eq_comm]
  · simp

/-! ### All overrides -/

/-- Overrides end with a fault exactly if one of them has it after all in front of it succeeded. -/
theorem applyEach_eq_some_iff {config result : Config} {steps : List Override}
    {fault : OverrideFault} :
    applyEach config steps = (result, some fault) ↔
      ∃ before next after, steps = before ++ next :: after
        ∧ applyEach config before = (result, none) ∧ next result = .error fault := by
  induction steps generalizing config with
  | nil =>
    constructor
    · intro h
      cases h
    · rintro ⟨before, next, after, hsteps, -⟩
      simp at hsteps
  | cons step rest ih =>
    constructor
    · intro h
      unfold applyEach at h
      rcases hstep : step config with cause | middle
      · rw [hstep] at h
        cases h
        exact ⟨[], step, rest, rfl, rfl, hstep⟩
      · rw [hstep] at h
        obtain ⟨before, next, after, rfl, hbefore, hnext⟩ := ih.mp h
        exact ⟨step :: before, next, after, rfl,
          applyEach_cons_eq_none_iff.mpr ⟨middle, hstep, hbefore⟩, hnext⟩
    · rintro ⟨_ | ⟨first, before⟩, next, after, hsteps, hbefore, hnext⟩
      · obtain ⟨rfl, rfl⟩ := List.cons.inj hsteps
        cases hbefore
        unfold applyEach
        rw [hnext]
      · obtain ⟨rfl, rfl⟩ := List.cons.inj hsteps
        obtain ⟨middle, hfirst, hrest⟩ := applyEach_cons_eq_none_iff.mp hbefore
        unfold applyEach
        rw [hfirst]
        exact ih.mpr ⟨before, next, after, rfl, hrest, hnext⟩

/-- An overlay is what the overrides give. -/
theorem IsOverlay.applyEach_eq {config result : Config} {e : Environment}
    (h : IsOverlay config e result) : applyEach config (overrides e) = (result, none) := by
  obtain ⟨htitle, houtput, hwidth, hheight, hmetrics, hformat, hsource⟩ := h
  obtain ⟨title, ⟨output⟩, width, height, metrics, format, source⟩ := result
  have hplain : ∀ text value : String,
      some text = some value → (Except.ok text : Except OverrideFault String) = .ok value := by
    rintro text _ ⟨⟩
    rfl
  have houtputText := houtput.read (fun path => some path.text) rfl
  rw [List.map_cons, Option.map_map] at houtputText
  unfold overrides
  refine applyEach_cons_eq_none_iff.mpr
    ⟨_, override_eq_ok Config.title some rfl hplain htitle, ?_⟩
  refine applyEach_cons_eq_none_iff.mpr
    ⟨_, override_eq_ok (fun config => config.output.text) some rfl hplain houtputText, ?_⟩
  refine applyEach_cons_eq_none_iff.mpr
    ⟨_, override_eq_ok Config.width readPixels rfl (pixels_of_readPixels _) hwidth, ?_⟩
  refine applyEach_cons_eq_none_iff.mpr
    ⟨_, override_eq_ok Config.height readPixels rfl (pixels_of_readPixels _) hheight, ?_⟩
  refine applyEach_cons_eq_none_iff.mpr
    ⟨_, override_eq_ok Config.metrics Selection.ofName? rfl (selection_of_ofName? _) hmetrics, ?_⟩
  refine applyEach_cons_eq_none_iff.mpr
    ⟨_, override_eq_ok Config.format some rfl hplain hformat, ?_⟩
  obtain rfl : source = config.source := hsource
  rfl

/-- All overrides succeed exactly if the settings are an overlay. -/
theorem applyEach_overrides_eq_none_iff {config result : Config} {e : Environment} :
    applyEach config (overrides e) = (result, none) ↔ IsOverlay config e result :=
  ⟨.of_applyEach, IsOverlay.applyEach_eq⟩

/-- A variable is set to a value that cannot be read, and this is the fault. -/
inductive IsUnreadable (e : Environment) : Environment.ReadVariable → OverrideFault → Prop
  | width {text : String} {cause : NumeralFault} (hset : e.width = some text)
    (hread : Numeral.word32 (Text.trim text.toList) = .error cause) :
    IsUnreadable e .width (.badNumber "WIDTH" text cause)
  | height {text : String} {cause : NumeralFault} (hset : e.height = some text)
    (hread : Numeral.word32 (Text.trim text.toList) = .error cause) :
    IsUnreadable e .height (.badNumber "HEIGHT" text cause)
  | metric {text : String} (hset : e.metric = some text) (hread : Selection.ofName? text = none) :
    IsUnreadable e .metric (.unknownMetric "METRIC" text)

/-- The overrides in front of one that has to be read are those of the environment that has no other
variables: a variable that is not set changes nothing. -/
theorem applyEach_before_eq_none_iff (config result : Config) (e : Environment) :
    (applyEach config ((overrides e).take 2) = (result, none) ↔
        IsOverlay config (e.before .width) result)
      ∧ (applyEach config ((overrides e).take 3) = (result, none) ↔
        IsOverlay config (e.before .height) result)
      ∧ (applyEach config ((overrides e).take 4) = (result, none) ↔
        IsOverlay config (e.before .metric) result) :=
  ⟨applyEach_overrides_eq_none_iff (e := e.before .width),
    applyEach_overrides_eq_none_iff (e := e.before .height),
    applyEach_overrides_eq_none_iff (e := e.before .metric)⟩

/-- The overrides end with a fault exactly at a variable that cannot be read, and the variables before
it have been applied. -/
theorem applyEach_overrides_eq_some_iff {config result : Config} {e : Environment}
    {fault : OverrideFault} :
    applyEach config (overrides e) = (result, some fault) ↔
      ∃ name, IsUnreadable e name fault ∧ IsOverlay config (e.before name) result := by
  obtain ⟨hwidth, hheight, hmetric⟩ := applyEach_before_eq_none_iff config result e
  rw [applyEach_eq_some_iff]
  constructor
  · rintro ⟨before, next, after, hsteps, hbefore, hnext⟩
    -- The six places at which the overrides can be split; a text is taken over as it is.
    rcases before with _ | ⟨title, _ | ⟨output, _ | ⟨width, _ | ⟨height, _ | ⟨metric, before⟩⟩⟩⟩⟩
    · cases hsteps
      obtain ⟨text, -, hread⟩ := override_eq_error_iff.mp hnext
      cases hread
    · cases hsteps
      obtain ⟨text, -, hread⟩ := override_eq_error_iff.mp hnext
      cases hread
    · cases hsteps
      obtain ⟨text, hset, hread⟩ := override_eq_error_iff.mp hnext
      obtain ⟨cause, hword, rfl⟩ := pixels_eq_error_iff.mp hread
      exact ⟨.width, .width hset hword, hwidth.mp hbefore⟩
    · cases hsteps
      obtain ⟨text, hset, hread⟩ := override_eq_error_iff.mp hnext
      obtain ⟨cause, hword, rfl⟩ := pixels_eq_error_iff.mp hread
      exact ⟨.height, .height hset hword, hheight.mp hbefore⟩
    · cases hsteps
      obtain ⟨text, hset, hread⟩ := override_eq_error_iff.mp hnext
      obtain ⟨hname, rfl⟩ := selection_eq_error_iff.mp hread
      exact ⟨.metric, .metric hset hname, hmetric.mp hbefore⟩
    · rcases before with _ | ⟨format, before⟩
      · cases hsteps
        obtain ⟨text, -, hread⟩ := override_eq_error_iff.mp hnext
        cases hread
      · simp [overrides] at hsteps
  · rintro ⟨name, hunreadable, hbefore⟩
    rcases hunreadable with ⟨hset, hread⟩ | ⟨hset, hread⟩ | ⟨hset, hread⟩
    · exact ⟨_, _, _, rfl, hwidth.mpr hbefore,
        override_eq_error_iff.mpr ⟨_, hset, pixels_eq_error_iff.mpr ⟨_, hread, rfl⟩⟩⟩
    · exact ⟨_, _, _, rfl, hheight.mpr hbefore,
        override_eq_error_iff.mpr ⟨_, hset, pixels_eq_error_iff.mpr ⟨_, hread, rfl⟩⟩⟩
    · exact ⟨_, _, _, rfl, hmetric.mpr hbefore,
        override_eq_error_iff.mpr ⟨_, hset, selection_eq_error_iff.mpr ⟨hread, rfl⟩⟩⟩

/-! ### Overlays -/

namespace IsOverlay

variable {config middle result : Config} {e later : Environment}

/-- An overlay over the settings that it gave changes nothing. -/
theorem again (h : IsOverlay config e result) : IsOverlay result e result where
  title := h.title.again
  output := h.output.again
  width := h.width.again
  height := h.height.again
  metrics := h.metrics.again
  format := h.format.again
  source := rfl

/-- An overlay over an overlay is the overlay of one environment over the other. -/
theorem trans (h : IsOverlay config e middle) (hlater : IsOverlay middle later result) :
    IsOverlay config (later.onTopOf e) result where
  title := hlater.title.onTop_or some h.title
  output := hlater.output.onTop_or (fun text => some (Path.mk text)) h.output
  width := hlater.width.onTop_or readPixels h.width
  height := hlater.height.onTop_or readPixels h.height
  metrics := hlater.metrics.onTop_or Selection.ofName? h.metrics
  format := hlater.format.onTop_or some h.format
  source := hlater.source.trans h.source

end IsOverlay

/-! ### Applying an environment -/

/-- An environment is applied exactly if its overlay is valid. -/
theorem applyEnvironment_eq_none_iff {config result : Config} {e : Environment} :
    applyEnvironment config e = (result, none) ↔
      IsOverlay config e result ∧ result.fault? = none := by
  constructor
  · exact IsOverlay.of_applyEnvironment
  · rintro ⟨hoverlay, hvalid⟩
    unfold applyEnvironment
    rw [hoverlay.applyEach_eq]
    simp only [hvalid, Option.map_none]

/-- An environment is not applied exactly if one of its variables cannot be read, or else its overlay
is not valid. -/
theorem applyEnvironment_eq_some_iff {config result : Config} {e : Environment}
    {fault : OverrideFault} :
    applyEnvironment config e = (result, some fault) ↔
      (∃ name, IsUnreadable e name fault ∧ IsOverlay config (e.before name) result)
        ∨ ∃ cause, fault = .invalid cause ∧ IsOverlay config e result
          ∧ result.fault? = some cause := by
  unfold applyEnvironment
  constructor
  · intro h
    rcases heach : applyEach config (overrides e) with ⟨last, _ | first⟩
    · right
      rw [heach] at h
      obtain ⟨rfl, hfault⟩ := Prod.mk.inj h
      obtain ⟨cause, hcause, rfl⟩ := Option.map_eq_some_iff.mp hfault
      exact ⟨cause, rfl, .of_applyEach heach, hcause⟩
    · left
      rw [heach] at h
      cases h
      exact applyEach_overrides_eq_some_iff.mp heach
  · rintro (hunreadable | ⟨cause, rfl, hoverlay, hcause⟩)
    · rw [applyEach_overrides_eq_some_iff.mpr hunreadable]
    · rw [hoverlay.applyEach_eq]
      simp only [hcause, Option.map_some]

/-- **The environment over the settings.**  An environment is applied exactly if the overlay of its
variables is valid, and that overlay is the result.  If a variable cannot be read, the result is the
overlay of the variables before it; and if it is only the result that is not valid, the overlay of all
variables.  An environment that was applied leaves a known format, and changes nothing when it is
applied once more.  Two environments that were applied one after the other can also be applied
together, the later one over the earlier one, with the same result. -/
theorem applyEnvironment_iff (config : Config) (e : Environment) :
    (∀ result, applyEnvironment config e = (result, none) ↔
        IsOverlay config e result ∧ result.fault? = none)
      ∧ (∀ result fault, applyEnvironment config e = (result, some fault) ↔
        (∃ name, IsUnreadable e name fault ∧ IsOverlay config (e.before name) result)
          ∨ ∃ cause, fault = .invalid cause ∧ IsOverlay config e result
            ∧ result.fault? = some cause)
      ∧ (∀ result, applyEnvironment config e = (result, none) →
        OutputFormat.ofName? result.format = some result.outputFormat
          ∧ applyEnvironment result e = (result, none))
      ∧ ∀ later middle result, applyEnvironment config e = (middle, none) →
        applyEnvironment middle later = (result, none) →
          applyEnvironment config (later.onTopOf e) = (result, none) := by
  refine ⟨fun _ => applyEnvironment_eq_none_iff, fun _ _ => applyEnvironment_eq_some_iff, ?_, ?_⟩
  · intro result h
    obtain ⟨hoverlay, hvalid⟩ := applyEnvironment_eq_none_iff.mp h
    exact ⟨ofName?_format hvalid, applyEnvironment_eq_none_iff.mpr ⟨hoverlay.again, hvalid⟩⟩
  · intro later middle result hearlier hlater
    obtain ⟨hmiddle, -⟩ := applyEnvironment_eq_none_iff.mp hearlier
    obtain ⟨hoverlay, hvalid⟩ := applyEnvironment_eq_none_iff.mp hlater
    exact applyEnvironment_eq_none_iff.mpr ⟨hmiddle.trans hoverlay, hvalid⟩

/-- An environment with a width in blanks and a choice of metrics. -/
def narrowEnvironment : Environment where
  width := some " 800 "
  metric := some "latency"

/-- An environment with another width and a format. -/
def tallEnvironment : Environment where
  width := some "+640"
  height := some "1200"
  format := some "csv"

/-- An environment whose height cannot be read, between variables that can. -/
def crookedEnvironment : Environment where
  title := some "Crooked"
  width := some "640"
  height := some "tall"
  metric := some "latency"

/-- Two environments are applied to the sample one after the other, and together; a third one stops at
its height, so the title and the width have been applied, and the choice of metrics has not. -/
theorem applyEnvironment_sample :
    applyEnvironment sample (tallEnvironment.onTopOf narrowEnvironment) =
        ({ sample with width := 640, height := 1200, metrics := .latency, format := "csv" }, none)
      ∧ ∃ name, IsUnreadable crookedEnvironment name (.badNumber "HEIGHT" "tall" .invalidDigit)
        ∧ IsOverlay sample (crookedEnvironment.before name)
          { sample with title := "Crooked", width := 640 } := by
  obtain ⟨-, -, -, htogether⟩ := applyEnvironment_iff sample narrowEnvironment
  obtain ⟨-, hstopped, -, -⟩ := applyEnvironment_iff sample crookedEnvironment
  constructor
  · exact htogether tallEnvironment { sample with width := 800, metrics := .latency } _
      (by decide +kernel) (by decide +kernel)
  · rcases (hstopped { sample with title := "Crooked", width := 640 }
      (.badNumber "HEIGHT" "tall" .invalidDigit)).mp (by decide +kernel) with h | ⟨cause, hcause, -⟩
    · exact h
    · cases hcause

end Config

end BenchCompare
