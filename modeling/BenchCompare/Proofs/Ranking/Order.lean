import BenchCompare.Proofs.Binary64.Greatest
import BenchCompare.Ranking
import Mathlib.Data.List.Pairwise
import Mathlib.Data.List.Range

/-!
# Rankings are stable

A ranking has every run once, at the rank that its place in a stable order gives it
(`Ranking.IsRankingOf`).  To say so even where runs are equal, the runs are taken together with their
positions in the input: a *stable order* is a rearrangement of the runs with their positions in which
no run comes before one that should precede it, and in which ties are broken by the position
(`Ranking.IsStableOrder`).

Both rankings sort by a whole number, the *key* of a run: the point of its rate on the line of
numbers, turned around, or its latency in nanoseconds.  The order of rates has this form only on runs
whose rates are numbers, since a comparison with `nan` always fails.  What holds of both rankings is
proved once, for a comparison that agrees with comparison of keys on the runs at hand.
-/

namespace BenchCompare.Ranking

/-- An order of runs, each with its position in the list of all runs: every run is there once, no
run comes before one that should precede it, and ties keep the order of the list. -/
structure IsStableOrder (mayPrecede : Run → Run → Prop) (runs : List Run)
    (placed : List (Run × Nat)) : Prop where
  perm : placed.Perm runs.zipIdx
  ordered : placed.Pairwise fun a b => mayPrecede a.1 b.1
  ties : placed.Pairwise fun a b => mayPrecede b.1 a.1 → a.2 < b.2

/-- Ranked runs are the runs in a stable order, with the ranks from one upwards. -/
def IsRankingOf (mayPrecede : Run → Run → Prop) (runs : List Run) (ranked : List Ranked) : Prop :=
  ranked.map Ranked.rank = List.range' 1 runs.length
    ∧ ∃ placed, IsStableOrder mayPrecede runs placed ∧ ranked.map Ranked.run = placed.map Prod.fst

/-! ### Sorting by a key -/

/-- The comparison of runs by a key. -/
def keyBefore (key : Run → Int) (a b : Run) : Bool :=
  key a ≤ key b

section Key

variable {before : Run → Run → Bool} {key : Run → Int} {runs others : List Run}

/-- Sorting depends on the comparison of the runs at hand only. -/
theorem mergeSort_eq_of_key (h : ∀ a ∈ runs, ∀ b ∈ runs, before a b = keyBefore key a b) :
    runs.mergeSort before = runs.mergeSort (keyBefore key) := by
  have hmap := List.map_mergeSort (f := fun run : Run => run) h
  rwa [List.map_id', List.map_id'] at hmap

theorem keyBefore_trans (a b c : Run) (hab : keyBefore key a b = true)
    (hbc : keyBefore key b c = true) : keyBefore key a c = true := by
  simp only [keyBefore, decide_eq_true_eq] at hab hbc ⊢
  exact Int.le_trans hab hbc

theorem keyBefore_total (a b : Run) : (keyBefore key a b || keyBefore key b a) = true := by
  simp only [keyBefore, Bool.or_eq_true, decide_eq_true_eq]
  exact Int.le_total (key a) (key b)

/-- Sorting by a key gives a stable order. -/
theorem exists_isStableOrder (key : Run → Int) (runs : List Run) :
    ∃ placed, IsStableOrder (fun a b => key a ≤ key b) runs placed
      ∧ runs.mergeSort (keyBefore key) = placed.map Prod.fst := by
  have hperm := List.mergeSort_perm runs.zipIdx (List.zipIdxLE (keyBefore key))
  have hsorted : (runs.zipIdx.mergeSort (List.zipIdxLE (keyBefore key))).Pairwise
      fun a b => List.zipIdxLE (keyBefore key) a b = true :=
    List.pairwise_mergeSort (List.zipIdxLE_trans keyBefore_trans)
      (List.zipIdxLE_total keyBefore_total) runs.zipIdx
  have hpositions : (runs.zipIdx.mergeSort (List.zipIdxLE (keyBefore key))).Pairwise
      fun a b => a.2 ≠ b.2 := by
    rw [← List.pairwise_map (f := Prod.snd) (R := (· ≠ ·)), ← List.Nodup]
    rw [(hperm.map Prod.snd).nodup_iff, List.zipIdx_map_snd]
    exact List.nodup_range'
  refine ⟨_, ⟨hperm, ?_, ?_⟩, List.mergeSort_zipIdx.symm⟩
  · refine hsorted.imp fun {a b} hab => ?_
    simp only [List.zipIdxLE, keyBefore, decide_eq_true_eq] at hab
    split at hab
    · assumption
    · cases hab
  · refine (hsorted.and hpositions).imp fun {a b} hab hba => ?_
    simp only [List.zipIdxLE, keyBefore, decide_eq_true_eq, if_pos hba] at hab
    obtain ⟨hle, hne⟩ := hab
    split at hle
    · exact Nat.lt_of_le_of_ne (by simpa using hle) hne
    · cases hle

/-- Runs that are sorted by a comparison that agrees with a key, and then numbered, are a ranking. -/
theorem isRankingOf_numbered {mayPrecede : Run → Run → Prop}
    (hbefore : ∀ a ∈ runs, ∀ b ∈ runs, before a b = keyBefore key a b)
    (hprecede : ∀ a ∈ runs, ∀ b ∈ runs, mayPrecede a b ↔ key a ≤ key b) (best : Binary64) :
    IsRankingOf mayPrecede runs (numbered best (runs.mergeSort before)) := by
  obtain ⟨placed, ⟨hperm, hordered, hties⟩, hsort⟩ := exists_isStableOrder key runs
  have hmem : ∀ a ∈ placed, a.1 ∈ runs :=
    fun a ha => List.fst_mem_of_mem_zipIdx (hperm.mem_iff.mp ha)
  constructor
  · have hranks : ∀ ordered : List Run,
        (numbered best ordered).map Ranked.rank = List.range' 1 ordered.length := by
      intro ordered
      have hindices : (numbered best ordered).map Ranked.rank =
          (ordered.zipIdx.map Prod.snd).map (· + 1) := by
        rw [numbered, List.map_map, List.map_map]
        rfl
      rw [hindices, List.zipIdx_map_snd, ← List.range'_succ_left]
    rw [hranks, List.length_mergeSort]
  · refine ⟨placed, ⟨hperm, ?_, ?_⟩, ?_⟩
    · refine hordered.imp_of_mem fun {a b} ha hb hab => ?_
      exact (hprecede a.1 (hmem a ha) b.1 (hmem b hb)).mpr hab
    · refine hties.imp_of_mem fun {a b} ha hb hab hba => ?_
      exact hab ((hprecede b.1 (hmem b hb) a.1 (hmem a ha)).mp hba)
    · have hruns : ∀ ordered : List Run, (numbered best ordered).map Ranked.run = ordered := by
        intro ordered
        rw [numbered, List.map_map]
        exact List.zipIdx_map_fst 0 ordered
      rw [hruns, mergeSort_eq_of_key hbefore, hsort]

/-- Runs with different keys are sorted in one way only, in whatever order they are given. -/
theorem mergeSort_eq_of_perm (hbefore : ∀ a ∈ runs, ∀ b ∈ runs, before a b = keyBefore key a b)
    (hperm : others.Perm runs) (hkeys : runs.Pairwise fun a b => key a ≠ key b) :
    others.mergeSort before = runs.mergeSort before := by
  have hothers : ∀ a ∈ others, ∀ b ∈ others, before a b = keyBefore key a b :=
    fun a ha b hb => hbefore a (hperm.mem_iff.mp ha) b (hperm.mem_iff.mp hb)
  have hsorted : ∀ l : List Run,
      (l.mergeSort (keyBefore key)).Pairwise fun a b => keyBefore key a b = true :=
    List.pairwise_mergeSort keyBefore_trans keyBefore_total
  rw [mergeSort_eq_of_key hbefore, mergeSort_eq_of_key hothers]
  refine List.Perm.eq_of_pairwise ?_ (hsorted others) (hsorted runs) ?_
  · intro a b ha hb hab hba
    have hmem : ∀ {c}, c ∈ runs.mergeSort (keyBefore key) → c ∈ runs := List.mem_mergeSort.mp
    have ha : a ∈ runs := hperm.mem_iff.mp (List.mem_mergeSort.mp ha)
    simp only [keyBefore, decide_eq_true_eq] at hab hba
    have : Std.Symm fun a b : Run => key a ≠ key b := ⟨fun _ _ h => h.symm⟩
    by_contra hne
    exact hkeys.forall ha (hmem hb) hne (Int.le_antisymm hab hba)
  · exact (List.mergeSort_perm others _).trans (hperm.trans (List.mergeSort_perm runs _).symm)

end Key

/-! ### The two keys -/

/-- The key for ranking by rate: the greater the rate, the smaller the key. -/
def rateKey (run : Run) : Int :=
  -run.rate.point

/-- The key for ranking by latency. -/
def latencyKey (run : Run) : Int :=
  run.latency.average.nanoseconds.toNat

/-- A run need not come after another one in the order of rates if its rate is at least as great. -/
theorem le_rate_iff {a b : Run} (ha : a.rate ≠ .nan) (hb : b.rate ≠ .nan) :
    Binary64.le b.rate a.rate = true ↔ rateKey a ≤ rateKey b := by
  rw [Binary64.le_iff_point_le hb ha, rateKey, rateKey, Int.neg_le_neg_iff]

/-- The comparison of rates is a comparison of keys. -/
theorem rateBefore_eq {a b : Run} (ha : a.rate ≠ .nan) (hb : b.rate ≠ .nan) :
    rateBefore a b = keyBefore rateKey a b := by
  have hlt := Binary64.lt_iff_point_lt ha hb
  rw [Bool.eq_iff_iff, rateBefore, Bool.not_eq_true', ← Bool.not_eq_true, hlt, keyBefore,
    decide_eq_true_eq, rateKey, rateKey, Int.neg_le_neg_iff, Int.not_lt]

/-- Rates differ if one of them is less than the other. -/
theorem rateKey_ne_of_lt {a b : Run}
    (h : Binary64.lt a.rate b.rate = true ∨ Binary64.lt b.rate a.rate = true) :
    rateKey a ≠ rateKey b := by
  intro heq
  have hpoint : a.rate.point = b.rate.point := Int.neg_inj.mp heq
  rcases h with h | h
  · exact absurd (Binary64.point_lt_of_lt h) (by omega)
  · exact absurd (Binary64.point_lt_of_lt h) (by omega)

theorem le_latency_iff {a b : Run} :
    a.latency.average.nanoseconds ≤ b.latency.average.nanoseconds ↔
      latencyKey a ≤ latencyKey b := by
  rw [UInt64.le_iff_toNat_le, latencyKey, latencyKey, Int.ofNat_le]

/-- The comparison of latencies is a comparison of keys. -/
theorem latencyBefore_eq (a b : Run) : latencyBefore a b = keyBefore latencyKey a b := by
  rw [latencyBefore, keyBefore, decide_eq_decide]
  exact le_latency_iff

theorem latencyKey_ne_of_ne {a b : Run} (h : a.latency.average ≠ b.latency.average) :
    latencyKey a ≠ latencyKey b := by
  intro heq
  have hnat : a.latency.average.nanoseconds.toNat = b.latency.average.nanoseconds.toNat :=
    Int.ofNat.inj heq
  have hdurations : ∀ d e : Duration, d.nanoseconds = e.nanoseconds → d = e := by
    rintro ⟨_⟩ ⟨_⟩ rfl
    rfl
  exact h (hdurations _ _ (UInt64.toNat_inj.mp hnat))

/-! ### The best rate -/

/-- A rate is the best of the runs: no rate of a run is greater, and it is the rate of a run above
zero unless it is zero. -/
structure IsBestRate (runs : List Run) (best : Binary64) : Prop where
  attained : best = .zero ∨ Binary64.lt .zero best = true ∧ ∃ run ∈ runs, run.rate = best
  upper : ∀ run ∈ runs, Binary64.lt best run.rate = false

theorem isBestRate_iff {runs : List Run} {best : Binary64} :
    IsBestRate runs best ↔ Binary64.IsPeak (runs.map Run.rate) best := by
  constructor
  · rintro ⟨hattained, hupper⟩
    exact ⟨hattained.imp_right fun ⟨hpos, hbest⟩ => ⟨hpos, List.mem_map.mpr hbest⟩,
      List.forall_mem_map.mpr hupper⟩
  · rintro ⟨hattained, hupper⟩
    exact ⟨hattained.imp_right fun ⟨hpos, hbest⟩ => ⟨hpos, List.mem_map.mp hbest⟩,
      List.forall_mem_map.mp hupper⟩

theorem bestRate_eq_foldl_max (runs : List Run) :
    bestRate runs = (runs.map Run.rate).foldl Binary64.max .zero :=
  List.foldl_map.symm

theorem isPeak_bestRate (runs : List Run) :
    Binary64.IsPeak (runs.map Run.rate) (bestRate runs) := by
  rw [bestRate_eq_foldl_max]
  exact Binary64.isPeak_foldl_max _

/-- The best rate is the best of the runs. -/
theorem isBestRate_bestRate (runs : List Run) : IsBestRate runs (bestRate runs) :=
  isBestRate_iff.mpr (isPeak_bestRate runs)

/-- The best rate does not depend on the order of the runs. -/
theorem bestRate_eq_of_perm {runs others : List Run} (h : others.Perm runs) :
    bestRate others = bestRate runs := by
  rw [bestRate_eq_foldl_max, bestRate_eq_foldl_max]
  exact Binary64.foldl_max_eq_of_perm (h.map Run.rate)

/-! ### Rankings -/

/-- **Rankings are stable orders.**  If the rates are numbers, the ranking by rate has the runs by
decreasing rate and the ranking by latency has them by increasing latency, every run once and ties in
the order of the input.  Runs that differ in their rates, or in their latencies, are ranked in the
same way in whatever order they are given. -/
theorem isRankingOf_byRate_byLatency {runs : List Run} (hrates : ∀ run ∈ runs, run.rate ≠ .nan) :
    IsRankingOf (fun a b => Binary64.le b.rate a.rate = true) runs (byRate runs)
      ∧ IsRankingOf
          (fun a b => a.latency.average.nanoseconds ≤ b.latency.average.nanoseconds) runs
          (byLatency runs)
      ∧ ∀ others : List Run, others.Perm runs →
        ((runs.Pairwise fun a b =>
            Binary64.lt a.rate b.rate = true ∨ Binary64.lt b.rate a.rate = true) →
          byRate others = byRate runs)
        ∧ ((runs.Pairwise fun a b => a.latency.average ≠ b.latency.average) →
          byLatency others = byLatency runs) := by
  have hrate : ∀ a ∈ runs, ∀ b ∈ runs, rateBefore a b = keyBefore rateKey a b :=
    fun a ha b hb => rateBefore_eq (hrates a ha) (hrates b hb)
  have hlatency : ∀ a ∈ runs, ∀ b ∈ runs, latencyBefore a b = keyBefore latencyKey a b :=
    fun a _ b _ => latencyBefore_eq a b
  refine ⟨?_, ?_, fun others hperm => ⟨fun hdistinct => ?_, fun hdistinct => ?_⟩⟩
  · exact isRankingOf_numbered hrate
      (fun a ha b hb => le_rate_iff (hrates a ha) (hrates b hb)) _
  · exact isRankingOf_numbered hlatency (fun _ _ _ _ => le_latency_iff) _
  · rw [byRate, byRate, bestRate_eq_of_perm hperm,
      mergeSort_eq_of_perm hrate hperm (hdistinct.imp rateKey_ne_of_lt)]
  · rw [byLatency, byLatency, bestRate_eq_of_perm hperm,
      mergeSort_eq_of_perm hlatency hperm (hdistinct.imp latencyKey_ne_of_ne)]

/-- Three runs, the first and the last of which have the same rate, zero with either sign. -/
def tiedRuns : List Run :=
  [{ label := "plus", rate := .zero, latency := ⟨⟨3000000⟩, ⟨0⟩, ⟨3000000⟩, .zero⟩ },
    { label := "five", rate := .ofNat 5, latency := ⟨⟨2000000⟩, ⟨0⟩, ⟨2000000⟩, .zero⟩ },
    { label := "minus", rate := Binary64.zero.neg, latency := ⟨⟨1000000⟩, ⟨0⟩, ⟨1000000⟩, .zero⟩ }]

/-- The tied runs are ranked in stable orders, and by latency in whatever order they are given. -/
theorem isRankingOf_tiedRuns :
    (∀ run ∈ tiedRuns, run.rate ≠ .nan)
      ∧ IsRankingOf (fun a b => Binary64.le b.rate a.rate = true) tiedRuns (byRate tiedRuns)
      ∧ IsRankingOf
          (fun a b => a.latency.average.nanoseconds ≤ b.latency.average.nanoseconds) tiedRuns
          (byLatency tiedRuns)
      ∧ byLatency tiedRuns.reverse = byLatency tiedRuns := by
  have hrates : ∀ run ∈ tiedRuns, run.rate ≠ .nan := by decide
  obtain ⟨hrate, hlatency, hperm⟩ := isRankingOf_byRate_byLatency hrates
  exact ⟨hrates, hrate, hlatency, (hperm _ (List.reverse_perm _)).2 (by decide)⟩

end BenchCompare.Ranking
