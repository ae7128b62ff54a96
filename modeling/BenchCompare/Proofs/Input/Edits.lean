import BenchCompare.Input.Load
import BenchCompare.Proofs.Json.Edits
import BenchCompare.Proofs.Json.RoundTrip

/-!
# Edited files of saved runs

Tools that sort the members of objects, and people who add notes of their own, edit files of saved
runs.  As long as no note has a name that means something in saved runs (`Run.savedNames`), the file
is read as before: it gives the same runs, or it is refused for the same reason
(`Input.readSaved_of_edits`).

Every record that occurs in saved runs is read indifferently, from the inside out, and so is each of
the three shapes of a file.  Hence the first shape that fits stays the same.
-/

namespace BenchCompare

/-! ### Simple fields -/

section Simple

variable {known : List String}

/-- Texts are read indifferently. -/
theorem Json.isIndifferent_asText? : IsIndifferent known asText? :=
  .of_simple (fun _ => rfl) fun _ => rfl

/-- Numbers are read indifferently. -/
theorem Json.isIndifferent_asNumber? : IsIndifferent known asNumber? :=
  .of_simple (fun _ => rfl) fun _ => rfl

/-- Counts of 32 bits are read indifferently. -/
theorem Json.isIndifferent_asCount32? : IsIndifferent known asCount32? :=
  .of_simple (fun _ => rfl) fun _ => rfl

/-- Counts of 64 bits are read indifferently. -/
theorem Json.isIndifferent_asCount64? : IsIndifferent known asCount64? :=
  .of_simple (fun _ => rfl) fun _ => rfl

/-- Durations are read indifferently. -/
theorem Duration.isIndifferent_ofJson? : Json.IsIndifferent known ofJson? :=
  .of_simple (fun _ => rfl) fun _ => rfl

/-- Times of writing are read indifferently. -/
theorem Timestamp.isIndifferent_parse? :
    Json.IsIndifferent known fun value => value.asText?.bind parse? :=
  .of_simple (fun _ => rfl) fun _ => rfl

end Simple

/-! ### Records -/

/-- The names of all fields of all records that occur in saved runs. -/
def Run.savedNames : List String :=
  ["generated_at", "results"] ++ Run.fieldNames ++ LatencyStats.fieldNames ++ ThreadStats.fieldNames
    ++ Percentile.fieldNames ++ SocketErrors.fieldNames

/-- Latency statistics are read indifferently. -/
theorem LatencyStats.isIndifferent_ofJson? : Json.IsIndifferent Run.savedNames ofJson? := by
  intro v w h
  unfold ofJson?
  refine Json.bind_fields?_eq (by decide) ?_ h
  intro fields others hsame
  simp only [Duration.isIndifferent_ofJson?.required?_eq hsame,
    Json.isIndifferent_asNumber?.required?_eq hsame]

/-- Thread statistics are read indifferently. -/
theorem ThreadStats.isIndifferent_ofJson? : Json.IsIndifferent Run.savedNames ofJson? := by
  intro v w h
  unfold ofJson?
  refine Json.bind_fields?_eq (by decide) ?_ h
  intro fields others hsame
  simp only [Json.isIndifferent_asNumber?.required?_eq hsame]

/-- Percentiles are read indifferently. -/
theorem Percentile.isIndifferent_ofJson? : Json.IsIndifferent Run.savedNames ofJson? := by
  intro v w h
  unfold ofJson?
  refine Json.bind_fields?_eq (by decide) ?_ h
  intro fields others hsame
  simp only [Duration.isIndifferent_ofJson?.required?_eq hsame,
    Json.isIndifferent_asNumber?.required?_eq hsame]

/-- Socket errors are read indifferently. -/
theorem SocketErrors.isIndifferent_ofJson? : Json.IsIndifferent Run.savedNames ofJson? := by
  intro v w h
  unfold ofJson?
  refine Json.bind_fields?_eq (by decide) ?_ h
  intro fields others hsame
  simp only [Json.isIndifferent_asCount64?.required?_eq hsame]

namespace Run

/-- Runs are read indifferently. -/
theorem isIndifferent_ofJson? : Json.IsIndifferent savedNames ofJson? := by
  intro v w h
  unfold ofJson?
  refine Json.bind_fields?_eq (by decide) ?_ h
  intro fields others hsame
  simp only [Json.isIndifferent_asText?.required?_eq hsame,
    Json.isIndifferent_asText?.optional?_eq hsame,
    Duration.isIndifferent_ofJson?.optional?_eq hsame,
    Json.isIndifferent_asCount32?.optional?_eq hsame,
    Json.isIndifferent_asNumber?.required?_eq hsame,
    LatencyStats.isIndifferent_ofJson?.required?_eq hsame,
    ThreadStats.isIndifferent_ofJson?.optional?_eq hsame,
    Percentile.isIndifferent_ofJson?.asList?.defaulted?_eq hsame,
    Json.isIndifferent_asCount64?.optional?_eq hsame,
    SocketErrors.isIndifferent_ofJson?.defaulted?_eq hsame,
    Json.isIndifferent_asCount64?.defaulted?_eq hsame]

/-! ### Files -/

/-- Lists of runs are read indifferently. -/
theorem isIndifferent_listOfJson? : Json.IsIndifferent savedNames listOfJson? :=
  isIndifferent_ofJson?.asList?

/-- Runs with the time of writing are read indifferently. -/
theorem isIndifferent_setOfJson? : Json.IsIndifferent savedNames setOfJson? := by
  intro v w h
  unfold setOfJson?
  refine Json.bind_fields?_eq (by decide) ?_ h
  intro fields others hsame
  simp only [Timestamp.isIndifferent_parse?.required?_eq hsame,
    isIndifferent_listOfJson?.required?_eq hsame]

/-- The runs of a file are read indifferently. -/
theorem isIndifferent_savedOfJson? : Json.IsIndifferent savedNames savedOfJson? := by
  intro v w h
  unfold savedOfJson?
  rw [isIndifferent_setOfJson? h, isIndifferent_listOfJson? h, isIndifferent_ofJson? h]

end Run

namespace Input

/-- Of a text that is one value, the value decides how the saved runs are read. -/
theorem parseSaved_of_parse? {text : String} {v : Json} (h : Json.parse? text = some v) :
    parseSaved text = match Run.savedOfJson? v with
      | none => .error .wrongShape
      | some runs => .ok runs := by
  unfold Json.parse? at h
  split at h
  · rename_i value hread
    obtain rfl := Option.some.inj h
    rw [parseSaved, hread]
    rfl
  · cases h

/-- **Edits go unnoticed.**  If the members of the objects in a file of saved runs are put in another
order, and members are added under names that mean nothing in saved runs, at any depth and any number
of times, then the file is read as before: it gives the same runs or the same fault.  That a text is
read as one value includes that its brackets are not nested too deeply. -/
theorem readSaved_of_edits {text edited : String} {v w : Json} (htext : Json.parse? text = some v)
    (hedited : Json.parse? edited = some w)
    (h : Relation.ReflTransGen (Json.Edit Run.savedNames) v w) (path : Path) :
    readSaved path edited = readSaved path text := by
  have hsaved : Run.savedOfJson? v = Run.savedOfJson? w :=
    Run.isIndifferent_savedOfJson?.eq_of_edits h
  have hparse : parseSaved edited = parseSaved text := by
    rw [parseSaved_of_parse? htext, parseSaved_of_parse? hedited, hsaved]
  unfold readSaved
  rw [hparse]

/-- A saved run, with the members of its latency statistics. -/
def steadyValue (latency : List (String × Json)) : Json :=
  .object
    [("label", .text "steady"), ("requests_per_second", .whole 7), ("latency", .object latency)]

/-- Latency statistics in milliseconds. -/
def steadyLatency : List (String × Json) :=
  [("avg_ms", .whole 2), ("stdev_ms", .whole 1), ("max_ms", .whole 5), ("within_stdev", .whole 70)]

/-- The same latency statistics from the last to the first, after a note. -/
def notedLatency : List (String × Json) :=
  ("note", .array [.null]) :: steadyLatency.reverse

/-- A saved run is read as before after its latency statistics were put in another order and got a
note. -/
theorem readSaved_notedLatency :
    readSaved ⟨"runs.json"⟩ ((steadyValue notedLatency).render .indented) =
      .ok [{ label := "steady"
             rate := .ofNat 7
             latency :=
              { average := ⟨2000000⟩
                deviation := ⟨1000000⟩
                maximum := ⟨5000000⟩
                withinDeviation := .ofNat 70 } }] := by
  have hwhole : ∀ {room : Nat} (n : Nat), n < UInt64.size → Json.IsReadable room (.whole n) :=
    fun _ => .whole
  have hsteady : ∀ member ∈ steadyLatency, Json.IsReadable 125 member.2 := by
    simp only [steadyLatency, List.forall_mem_cons, List.not_mem_nil, false_implies, implies_true,
      and_true]
    exact ⟨hwhole 2 (by decide), hwhole 1 (by decide), hwhole 5 (by decide), hwhole 70 (by decide)⟩
  have hnoted : ∀ member ∈ notedLatency, Json.IsReadable 125 member.2 := by
    rw [notedLatency, List.forall_mem_cons]
    refine ⟨.array ?_, fun member hmember => hsteady member (List.mem_reverse.mp hmember)⟩
    exact List.forall_mem_singleton.mpr .null
  have hread : ∀ {latency : List (String × Json)} (layout : Json.Layout),
      (∀ member ∈ latency, Json.IsReadable 125 member.2) →
        Json.parse? ((steadyValue latency).render layout) = some (steadyValue latency) := by
    intro latency layout h
    refine Json.parse?_render (.object ?_) layout
    simp only [List.forall_mem_cons, List.not_mem_nil, false_implies, implies_true, and_true]
    exact ⟨.text _, hwhole 7 (by decide), .object h⟩
  have hreverse : Json.Edit Run.savedNames (steadyValue steadyLatency)
      (steadyValue steadyLatency.reverse) :=
    .member [("label", .text "steady"), ("requests_per_second", .whole 7)] [] "latency"
      (.permute steadyLatency.reverse_perm.symm)
  have hnote : Json.Edit Run.savedNames (steadyValue steadyLatency.reverse)
      (steadyValue notedLatency) :=
    .member [("label", .text "steady"), ("requests_per_second", .whole 7)] [] "latency"
      (.add (by decide) _ _)
  rw [readSaved_of_edits (hread .compact hsteady) (hread .indented hnoted)
    (.tail (.single hreverse) hnote) ⟨"runs.json"⟩]
  decide +kernel

end Input

end BenchCompare
