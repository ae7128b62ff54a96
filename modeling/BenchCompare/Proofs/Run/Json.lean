import BenchCompare.Proofs.Json.Records
import BenchCompare.Proofs.Json.RoundTrip
import BenchCompare.Run.Json

/-!
# Runs are read back from JSON

Saving a run and reading it again gives the same run (`Run.ofJson?_toJson`), whichever of its fields
are there.  This takes that the durations come back from their milliseconds (`Run.IsStable`), for
files hold milliseconds.

A value that is written for a set of runs, for a list of runs or for a single run is read as what it
was written for (`Run.savedOfJson?_setToJson`, `Run.savedOfJson?_listToJson`,
`Run.savedOfJson?_toJson`), although the three shapes are tried one after the other.
-/

namespace BenchCompare

/-- A duration that comes back from its milliseconds. -/
def Duration.IsStable (d : Duration) : Prop :=
  ofMilliseconds? d.milliseconds = some d

instance (d : Duration) : Decidable d.IsStable :=
  inferInstanceAs (Decidable (_ = _))

/-- The milliseconds of a stable duration are finite. -/
theorem Duration.IsStable.isFinite {d : Duration} (h : d.IsStable) :
    d.milliseconds.isFinite = true := by
  rw [IsStable, ofMilliseconds?] at h
  split at h
  · next hnonneg =>
    rw [Binary64.isFiniteNonneg, Bool.and_eq_true] at hnonneg
    exact hnonneg.1
  · cases h

/-- A stable duration is read back. -/
theorem Duration.IsStable.ofJson?_toJson {d : Duration} (h : d.IsStable) :
    ofJson? d.toJson = some d := by
  rw [ofJson?, toJson, Json.asNumber?, Option.bind_some]
  exact h

namespace Run

/-- The durations of a run. -/
def durations (run : Run) : List Duration :=
  [run.latency.average, run.latency.deviation, run.latency.maximum] ++ run.planned.toList
    ++ run.elapsed.toList ++ run.distribution.map Percentile.latency

/-- The binary64 numbers of a run. -/
def numbers (run : Run) : List Binary64 :=
  [run.rate, run.latency.withinDeviation]
    ++ run.threadRate.toList.flatMap
      (fun s => [s.average, s.deviation, s.maximum, s.withinDeviation])
    ++ run.distribution.map Percentile.percent

/-- A run whose durations come back from their milliseconds. -/
def IsStable (run : Run) : Prop :=
  ∀ d ∈ run.durations, d.IsStable

instance (run : Run) : Decidable run.IsStable :=
  inferInstanceAs (Decidable (∀ d ∈ run.durations, d.IsStable))

/-- The fields of a run as a record, with their values as far as they are there. -/
def table (run : Run) : List (String × Option Json) :=
  [("label", some (.text run.label)), ("target", run.target.map .text),
    ("test_duration_ms", run.planned.map Duration.toJson),
    ("threads", run.threads.map Json.count32), ("connections", run.connections.map Json.count32),
    ("requests_per_second", some (.number run.rate)), ("latency", some run.latency.toJson),
    ("thread_requests", run.threadRate.map ThreadStats.toJson),
    ("latency_distribution",
      if run.distribution.isEmpty then none
      else some (.array (run.distribution.map Percentile.toJson))),
    ("total_requests", run.requests.map Json.count64),
    ("elapsed_ms", run.elapsed.map Duration.toJson),
    ("bytes_read", run.bytesRead.map Json.count64),
    ("transfer_per_second", run.transferRate.map Json.count64),
    ("socket_errors", some run.socketErrors.toJson),
    ("non_2xx_3xx", some (.count64 run.failedResponses))]

/-- A run is written from its table. -/
theorem toJson_eq (run : Run) : run.toJson = .object (Json.present run.table) := by
  have hdistribution : distributionMember run.distribution =
      Json.optionalMember "latency_distribution"
        (if run.distribution.isEmpty then none
          else some (.array (run.distribution.map Percentile.toJson))) := by
    rw [distributionMember]
    split <;> rfl
  rw [toJson, hdistribution, Json.present, table]
  simp only [List.flatMap_cons, List.flatMap_nil, List.append_assoc, List.append_nil]
  rfl

/-- The names in the table of a run are the names of its fields. -/
theorem map_fst_table (run : Run) : run.table.map Prod.fst = fieldNames := rfl

theorem nodup_map_fst_table (run : Run) : (run.table.map Prod.fst).Nodup := by
  rw [map_fst_table]
  decide

end Run

/-- Latency statistics with stable durations are read back. -/
theorem LatencyStats.ofJson?_toJson {s : LatencyStats} (haverage : s.average.IsStable)
    (hdeviation : s.deviation.IsStable) (hmaximum : s.maximum.IsStable) :
    ofJson? s.toJson = some s := by
  have hfields : s.toJson.fields? fieldNames = some
      [("avg_ms", s.average.toJson), ("stdev_ms", s.deviation.toJson),
        ("max_ms", s.maximum.toJson), ("within_stdev", .number s.withinDeviation)] :=
    Json.fields?_object (by decide) (List.Sublist.refl _)
  rw [ofJson?]
  refine Json.bind_eq_some hfields ?_
  refine Json.bind_eq_some (Json.required?_eq_some rfl haverage.ofJson?_toJson) ?_
  refine Json.bind_eq_some (Json.required?_eq_some rfl hdeviation.ofJson?_toJson) ?_
  refine Json.bind_eq_some (Json.required?_eq_some rfl hmaximum.ofJson?_toJson) ?_
  exact Json.bind_eq_some (Json.required?_eq_some rfl rfl) rfl

/-- Thread statistics are read back. -/
theorem ThreadStats.ofJson?_toJson (s : ThreadStats) : ofJson? s.toJson = some s := by
  have hfields : s.toJson.fields? fieldNames = some
      [("avg", .number s.average), ("stdev", .number s.deviation), ("max", .number s.maximum),
        ("within_stdev", .number s.withinDeviation)] :=
    Json.fields?_object (by decide) (List.Sublist.refl _)
  rw [ofJson?]
  refine Json.bind_eq_some hfields ?_
  refine Json.bind_eq_some (Json.required?_eq_some rfl rfl) ?_
  refine Json.bind_eq_some (Json.required?_eq_some rfl rfl) ?_
  refine Json.bind_eq_some (Json.required?_eq_some rfl rfl) ?_
  exact Json.bind_eq_some (Json.required?_eq_some rfl rfl) rfl

/-- A percentile with a stable duration is read back. -/
theorem Percentile.ofJson?_toJson {p : Percentile} (h : p.latency.IsStable) :
    ofJson? p.toJson = some p := by
  have hfields : p.toJson.fields? fieldNames = some
      [("percentile", .number p.percent), ("latency_ms", p.latency.toJson)] :=
    Json.fields?_object (by decide) (List.Sublist.refl _)
  rw [ofJson?]
  refine Json.bind_eq_some hfields ?_
  refine Json.bind_eq_some (Json.required?_eq_some rfl rfl) ?_
  exact Json.bind_eq_some (Json.required?_eq_some rfl h.ofJson?_toJson) rfl

/-- Socket errors are read back. -/
theorem SocketErrors.ofJson?_toJson (e : SocketErrors) : ofJson? e.toJson = some e := by
  have hfields : e.toJson.fields? fieldNames = some
      [("connect", .count64 e.connect), ("read", .count64 e.read), ("write", .count64 e.write),
        ("timeout", .count64 e.timeout)] :=
    Json.fields?_object (by decide) (List.Sublist.refl _)
  have hcount := Json.asCount64?_count64
  rw [ofJson?]
  refine Json.bind_eq_some hfields ?_
  refine Json.bind_eq_some (Json.required?_eq_some rfl (hcount _)) ?_
  refine Json.bind_eq_some (Json.required?_eq_some rfl (hcount _)) ?_
  refine Json.bind_eq_some (Json.required?_eq_some rfl (hcount _)) ?_
  exact Json.bind_eq_some (Json.required?_eq_some rfl (hcount _)) rfl

namespace Run

/-- The latency distribution is read back, if its durations are stable; an empty one is left out. -/
theorem defaulted?_distribution {entries : List Percentile}
    (h : ∀ entry ∈ entries, entry.latency.IsStable) {fields : List (String × Json)}
    (hlookup : fields.lookup "latency_distribution" =
      if entries.isEmpty then none else some (.array (entries.map Percentile.toJson))) :
    Json.defaulted? (Json.asList? Percentile.ofJson?) [] "latency_distribution" fields =
      some entries := by
  cases entries with
  | nil =>
    rw [Json.defaulted?, hlookup]
    rfl
  | cons entry entries =>
    exact Json.defaulted?_eq_some hlookup
      (Json.asList?_array fun entry hentry => Percentile.ofJson?_toJson (h entry hentry))

/-- **A run is read back from its record.**  The durations of the run have to come back from their
milliseconds. -/
theorem ofJson?_toJson {run : Run} (h : run.IsStable) : ofJson? run.toJson = some run := by
  have hplanned : ∀ d ∈ run.planned, Duration.ofJson? d.toJson = some d :=
    fun d hd => (h d (by simp [durations, Option.mem_def.mp hd])).ofJson?_toJson
  have helapsed : ∀ d ∈ run.elapsed, Duration.ofJson? d.toJson = some d :=
    fun d hd => (h d (by simp [durations, Option.mem_def.mp hd])).ofJson?_toJson
  have hlatency : LatencyStats.ofJson? run.latency.toJson = some run.latency :=
    LatencyStats.ofJson?_toJson (h _ (by simp [durations])) (h _ (by simp [durations]))
      (h _ (by simp [durations]))
  have hdistribution : ∀ entry ∈ run.distribution, entry.latency.IsStable := fun entry hentry =>
    h _ (List.mem_append_right _ (List.mem_map_of_mem hentry))
  have hfields : run.toJson.fields? fieldNames = some (Json.present run.table) := by
    rw [toJson_eq, ← run.map_fst_table]
    exact Json.fields?_present run.nodup_map_fst_table
  have hlookup : ∀ {name : String} {value : Option Json}, run.table.lookup name = some value →
      (Json.present run.table).lookup name = value :=
    fun hname => Json.lookup_present run.nodup_map_fst_table hname
  have hnumber : ∀ d : Duration, d.toJson ≠ .null := nofun
  have hthreads : ∀ s : ThreadStats, s.toJson ≠ .null := nofun
  have hcount32 : ∀ n, Json.count32 n ≠ .null := nofun
  have hcount64 : ∀ n, Json.count64 n ≠ .null := nofun
  have hread32 : ∀ {count : Option UInt32}, ∀ n ∈ count, Json.asCount32? (.count32 n) = some n :=
    fun n _ => Json.asCount32?_count32 n
  have hread64 : ∀ {count : Option UInt64}, ∀ n ∈ count, Json.asCount64? (.count64 n) = some n :=
    fun n _ => Json.asCount64?_count64 n
  rw [ofJson?]
  refine Json.bind_eq_some hfields ?_
  refine Json.bind_eq_some (Json.required?_eq_some (hlookup rfl) rfl) ?_
  refine Json.bind_eq_some (Json.optional?_eq_some nofun (hlookup rfl) fun _ _ => rfl) ?_
  refine Json.bind_eq_some (Json.optional?_eq_some hnumber (hlookup rfl) hplanned) ?_
  refine Json.bind_eq_some (Json.optional?_eq_some hcount32 (hlookup rfl) hread32) ?_
  refine Json.bind_eq_some (Json.optional?_eq_some hcount32 (hlookup rfl) hread32) ?_
  refine Json.bind_eq_some (Json.required?_eq_some (hlookup rfl) rfl) ?_
  refine Json.bind_eq_some (Json.required?_eq_some (hlookup rfl) hlatency) ?_
  refine Json.bind_eq_some
    (Json.optional?_eq_some hthreads (hlookup rfl) fun s _ => s.ofJson?_toJson) ?_
  refine Json.bind_eq_some (defaulted?_distribution hdistribution (hlookup rfl)) ?_
  refine Json.bind_eq_some (Json.optional?_eq_some hcount64 (hlookup rfl) hread64) ?_
  refine Json.bind_eq_some (Json.optional?_eq_some hnumber (hlookup rfl) helapsed) ?_
  refine Json.bind_eq_some (Json.optional?_eq_some hcount64 (hlookup rfl) hread64) ?_
  refine Json.bind_eq_some (Json.optional?_eq_some hcount64 (hlookup rfl) hread64) ?_
  refine Json.bind_eq_some
    (Json.defaulted?_eq_some (hlookup rfl) run.socketErrors.ofJson?_toJson) ?_
  refine Json.bind_eq_some
    (Json.defaulted?_eq_some (hlookup rfl) (Json.asCount64?_count64 _)) ?_
  rfl

/-! ### Files of saved runs -/

/-- A list of runs is read back as such. -/
theorem listOfJson?_listToJson {runs : List Run} (h : ∀ run ∈ runs, run.IsStable) :
    listOfJson? (listToJson runs) = some runs :=
  Json.asList?_array fun run hrun => ofJson?_toJson (h run hrun)

/-- A set of runs is read back as such, if the time of writing is a timestamp. -/
theorem setOfJson?_setToJson {runs : List Run} (h : ∀ run ∈ runs, run.IsStable)
    {generatedAt : String} {t : Timestamp} (htime : Timestamp.parse? generatedAt = some t) :
    setOfJson? (setToJson generatedAt runs) = some runs := by
  have hfields : (setToJson generatedAt runs).fields? ["generated_at", "results"] = some
      [("generated_at", .text generatedAt), ("results", listToJson runs)] :=
    Json.fields?_object (by decide) (List.Sublist.refl _)
  rw [setOfJson?]
  refine Json.bind_eq_some hfields ?_
  refine Json.bind_eq_some (Json.required?_eq_some rfl htime) ?_
  exact Json.required?_eq_some rfl (listOfJson?_listToJson h)

/-- A list of runs is not taken for a set: its first item is no timestamp. -/
theorem setOfJson?_listToJson (runs : List Run) : setOfJson? (listToJson runs) = none := by
  rw [setOfJson?, listToJson]
  cases runs with
  | nil => rfl
  | cons run runs =>
    rw [List.map_cons, Json.fields?]
    split
    · rfl
    · rfl

/-- A single run is not taken for a set: it has no time of writing. -/
theorem setOfJson?_toJson (run : Run) : setOfJson? run.toJson = none := by
  have hknown : (Json.present run.table).filter
      (fun member => ["generated_at", "results"].contains member.1) = [] := by
    rw [List.filter_eq_nil_iff]
    intro member hmember
    have hname := (Json.map_fst_present_sublist run.table).subset (List.mem_map_of_mem hmember)
    rw [map_fst_table] at hname
    have htable : ∀ name ∈ fieldNames, ["generated_at", "results"].contains name = false := by
      decide
    rw [htable _ hname]
    nofun
  rw [setOfJson?, toJson_eq, Json.fields?]
  simp only [hknown]
  rfl

/-- A single run is not taken for a list. -/
theorem listOfJson?_toJson (run : Run) : listOfJson? run.toJson = none := by
  rw [toJson_eq]
  rfl

/-- What is written for a set of runs is read as a set. -/
theorem savedOfJson?_setToJson {runs : List Run} (h : ∀ run ∈ runs, run.IsStable)
    {generatedAt : String} {t : Timestamp} (htime : Timestamp.parse? generatedAt = some t) :
    savedOfJson? (setToJson generatedAt runs) = some runs := by
  rw [savedOfJson?, setOfJson?_setToJson h htime, Option.some_or]

/-- What is written for a list of runs is read as a list. -/
theorem savedOfJson?_listToJson {runs : List Run} (h : ∀ run ∈ runs, run.IsStable) :
    savedOfJson? (listToJson runs) = some runs := by
  rw [savedOfJson?, setOfJson?_listToJson, listOfJson?_listToJson h, Option.none_or, Option.some_or]

/-- What is written for a single run is read as a single run. -/
theorem savedOfJson?_toJson {run : Run} (h : run.IsStable) :
    savedOfJson? run.toJson = some [run] := by
  rw [savedOfJson?, setOfJson?_toJson, listOfJson?_toJson, ofJson?_toJson h, Option.none_or,
    Option.none_or, Option.map_some]

/-! ### The texts of runs -/

/-- The binary64 numbers that are written for a run: its own, and its durations in milliseconds. -/
def writtenNumbers (run : Run) : List Binary64 :=
  run.numbers ++ run.durations.map Duration.milliseconds

/-- A run can be written in JSON and read again if its numbers are read back one by one. -/
theorem isReadable_toJson {run : Run} (h : ∀ x ∈ run.writtenNumbers, Json.ReadsBack x)
    (room : Nat) : Json.IsReadable (room + 3) run.toJson := by
  have hnumber : ∀ x ∈ run.numbers, ∀ {room}, Json.IsReadable room (.number x) :=
    fun x hx _ => .number (h x (List.mem_append_left _ hx))
  have hduration : ∀ d ∈ run.durations, ∀ {room}, Json.IsReadable room d.toJson :=
    fun d hd _ => .number (h _ (List.mem_append_right _ (List.mem_map_of_mem hd)))
  have hcount32 : ∀ (n : UInt32) {room}, Json.IsReadable room (.count32 n) :=
    fun n _ => .whole (n.toNat_lt.trans (by decide))
  have hcount64 : ∀ (n : UInt64) {room}, Json.IsReadable room (.count64 n) :=
    fun n _ => .whole n.toNat_lt
  have hlatency : Json.IsReadable (room + 2) run.latency.toJson := by
    refine .object ?_
    simp only [List.forall_mem_cons, List.not_mem_nil, false_implies, implies_true, and_true]
    exact ⟨hduration _ (by simp [durations]), hduration _ (by simp [durations]),
      hduration _ (by simp [durations]), hnumber _ (by simp [numbers])⟩
  have hthreads : ∀ s ∈ run.threadRate, Json.IsReadable (room + 2) s.toJson := by
    intro s hs
    rw [Option.mem_def] at hs
    refine .object ?_
    simp only [List.forall_mem_cons, List.not_mem_nil, false_implies, implies_true, and_true]
    exact ⟨hnumber _ (by simp [numbers, hs]), hnumber _ (by simp [numbers, hs]),
      hnumber _ (by simp [numbers, hs]), hnumber _ (by simp [numbers, hs])⟩
  have hdistribution :
      Json.IsReadable (room + 2) (.array (run.distribution.map Percentile.toJson)) := by
    refine .array (List.forall_mem_map.mpr fun entry hentry => .object ?_)
    simp only [List.forall_mem_cons, List.not_mem_nil, false_implies, implies_true, and_true]
    exact ⟨hnumber _ (List.mem_append_right _ (List.mem_map_of_mem hentry)),
      hduration _ (List.mem_append_right _ (List.mem_map_of_mem hentry))⟩
  have herrors : Json.IsReadable (room + 2) run.socketErrors.toJson := by
    refine .object ?_
    simp only [List.forall_mem_cons, List.not_mem_nil, false_implies, implies_true, and_true]
    exact ⟨hcount64 _, hcount64 _, hcount64 _, hcount64 _⟩
  have hsome : ∀ {value : Json}, Json.IsReadable (room + 2) value →
      ∀ v ∈ some value, Json.IsReadable (room + 2) v := by
    rintro value hvalue _ ⟨⟩
    exact hvalue
  have hmap : ∀ {α : Type} {value : Option α} {write : α → Json},
      (∀ a ∈ value, Json.IsReadable (room + 2) (write a)) →
        ∀ v ∈ value.map write, Json.IsReadable (room + 2) v := by
    rintro α value write hvalue v hv
    obtain ⟨a, ha, rfl⟩ := Option.map_eq_some_iff.mp hv
    exact hvalue a ha
  rw [toJson_eq]
  refine .object (Json.forall_mem_present ?_)
  simp only [table, List.forall_mem_cons, List.not_mem_nil, false_implies, implies_true, and_true]
  refine ⟨hsome (.text _), hmap fun _ _ => .text _,
    hmap fun d hd => hduration d (by simp [durations, Option.mem_def.mp hd]),
    hmap fun n _ => hcount32 n, hmap fun n _ => hcount32 n, hsome (hnumber _ (by simp [numbers])),
    hsome hlatency, hmap hthreads, ?_, hmap fun n _ => hcount64 n,
    hmap fun d hd => hduration d (by simp [durations, Option.mem_def.mp hd]),
    hmap fun n _ => hcount64 n, hmap fun n _ => hcount64 n, hsome herrors, hsome (hcount64 _)⟩
  split
  · nofun
  · exact hsome hdistribution

/-- Runs can be written in JSON and read again as a list. -/
theorem isReadable_listToJson {runs : List Run}
    (h : ∀ run ∈ runs, ∀ x ∈ run.writtenNumbers, Json.ReadsBack x) (room : Nat) :
    Json.IsReadable (room + 4) (listToJson runs) :=
  .array (List.forall_mem_map.mpr fun run hrun => isReadable_toJson (h run hrun) room)

/-- Runs can be written in JSON and read again as a set. -/
theorem isReadable_setToJson {runs : List Run}
    (h : ∀ run ∈ runs, ∀ x ∈ run.writtenNumbers, Json.ReadsBack x) (generatedAt : String)
    (room : Nat) : Json.IsReadable (room + 5) (setToJson generatedAt runs) := by
  refine .object ?_
  simp only [List.forall_mem_cons, List.not_mem_nil, false_implies, implies_true, and_true]
  exact ⟨.text _, isReadable_listToJson h room⟩

end Run

end BenchCompare
