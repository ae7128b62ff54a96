import BenchCompare.Proofs.Binary64.Monotone
import BenchCompare.Proofs.Ranking.Order
import BenchCompare.Proofs.Run.Numbers

/-!
# Relative rates

The best rate is found by going through the runs, and the first run of the ranking by sorting them.
Both agree (`Ranking.eq_bestRate_of_byRate_eq_cons`): the best rate is the rate of the first run, except
that it has no sign where that run has the rate minus zero.

A relative rate is rounded twice, in the division by the best rate and in the multiplication by one
hundred.  Neither disturbs the order, and both are exact for the best rate itself
(`Ranking.percentOf_self`).  So relative rates lie between zero and one hundred, they do not increase
along the ranking, and the first run has exactly one hundred, however small or great the rates are
(`Ranking.relativeRate_of_valid`).
-/

namespace BenchCompare

namespace Ranking

/-! ### Percentages -/

/-- What is needed of a best rate to divide by it: it is finite and above zero. -/
structure IsDivisor (best : Binary64) : Prop where
  zero_lt : Binary64.lt .zero best = true
  isFinite : best.isFinite = true

section Percent

variable {best x y : Binary64}

theorem zero_lt_hundred : Binary64.lt .zero (.ofNat 100) = true := by
  decide +kernel

theorem isFinite_hundred : (Binary64.ofNat 100).isFinite = true := by
  decide +kernel

/-- A finite number above zero is finite and not below zero. -/
theorem IsDivisor.isFiniteNonneg (h : IsDivisor best) : best.isFiniteNonneg = true :=
  Binary64.isFiniteNonneg_of_zero_lt h.zero_lt h.isFinite

theorem percentOf_eq (h : IsDivisor best) :
    percentOf best x = (x.div best).mul (.ofNat 100) :=
  if_pos h.zero_lt

/-- The share of a rate in the best one is between zero and one. -/
theorem isFiniteNonneg_div (h : IsDivisor best) (hx : x.isFiniteNonneg = true)
    (hle : x.point ≤ best.point) :
    (x.div best).isFiniteNonneg = true ∧ (x.div best).point ≤ (Binary64.ofNat 1).point := by
  obtain ⟨hnumber, hpoint⟩ := Binary64.point_div hx h.zero_lt h.isFinite
  have hone : (x.div best).point ≤ (Binary64.ofNat 1).point := by
    rw [← Binary64.div_self h.zero_lt h.isFinite]
    exact Binary64.point_div_le hx h.isFiniteNonneg h.zero_lt h.isFinite hle
  have hinfinity : (Binary64.ofNat 1).point < infinityPlace := by decide +kernel
  refine ⟨Binary64.isFiniteNonneg_iff.mpr ⟨hnumber, ?_, Int.lt_of_le_of_lt hone hinfinity⟩, hone⟩
  rw [hpoint]
  exact Int.natCast_nonneg _

/-- Percentages are numbers. -/
theorem percentOf_ne_nan (h : IsDivisor best) (hx : x.isFiniteNonneg = true)
    (hle : x.point ≤ best.point) : percentOf best x ≠ .nan := by
  rw [percentOf_eq h]
  exact (Binary64.point_mul (isFiniteNonneg_div h hx hle).1 zero_lt_hundred isFinite_hundred).1

/-- Percentages are in the order of the rates. -/
theorem percentOf_point_le (h : IsDivisor best) (hx : x.isFiniteNonneg = true)
    (hy : y.isFiniteNonneg = true) (hxy : x.point ≤ y.point) (hle : y.point ≤ best.point) :
    (percentOf best x).point ≤ (percentOf best y).point := by
  rw [percentOf_eq h, percentOf_eq h]
  have hshare := isFiniteNonneg_div h hx (Int.le_trans hxy hle)
  have hgreater := isFiniteNonneg_div h hy hle
  refine Binary64.point_mul_le hshare.1 hgreater.1 zero_lt_hundred isFinite_hundred ?_
  exact Binary64.point_div_le hx hy h.zero_lt h.isFinite hxy

/-- The best rate is one hundred percent of itself, exactly. -/
theorem percentOf_self (h : IsDivisor best) : percentOf best best = .ofNat 100 := by
  rw [percentOf_eq h, Binary64.div_self h.zero_lt h.isFinite]
  exact Binary64.one_mul isFinite_hundred

/-- Percentages are not below zero. -/
theorem zero_le_percentOf (h : IsDivisor best) (hx : x.isFiniteNonneg = true)
    (hle : x.point ≤ best.point) : 0 ≤ (percentOf best x).point := by
  rw [percentOf_eq h,
    (Binary64.point_mul (isFiniteNonneg_div h hx hle).1 zero_lt_hundred isFinite_hundred).2]
  exact Int.natCast_nonneg _

end Percent

/-! ### The best rate and the ranking -/

section Runs

variable {runs : List Run}

/-- A rate that is finite and not below zero is a number. -/
theorem rate_ne_nan (hrates : ∀ run ∈ runs, run.rate.isFiniteNonneg = true) :
    ∀ run ∈ runs, run.rate ≠ .nan :=
  fun run hrun => (Binary64.isFiniteNonneg_iff.mp (hrates run hrun)).1

/-- The best rate is a number. -/
theorem bestRate_ne_nan (runs : List Run) : bestRate runs ≠ .nan :=
  (isPeak_bestRate runs).ne_nan

/-- If the best rate is above zero, one can divide by it. -/
theorem isDivisor_bestRate (hrates : ∀ run ∈ runs, run.rate.isFiniteNonneg = true)
    (hpos : Binary64.lt .zero (bestRate runs) = true) : IsDivisor (bestRate runs) := by
  refine ⟨hpos, ?_⟩
  rcases (isBestRate_bestRate runs).attained with hzero | ⟨-, run, hrun, hrate⟩
  · rw [hzero] at hpos
    cases hpos
  · rw [← hrate]
    exact Binary64.isFinite_of_isFiniteNonneg (hrates run hrun)

/-- No rate is greater than the best one. -/
theorem point_rate_le (hrates : ∀ run ∈ runs, run.rate.isFiniteNonneg = true) {run : Run}
    (hrun : run ∈ runs) : run.rate.point ≤ (bestRate runs).point := by
  have hnumber := rate_ne_nan hrates run hrun
  have hle := (isPeak_bestRate runs).le (List.mem_map_of_mem hrun) hnumber
  exact (Binary64.le_iff_point_le hnumber (bestRate_ne_nan runs)).mp hle

/-- The entries of a ranking carry the relative rates of their runs. -/
theorem relativeRate_of_mem_numbered {ordered : List Run} {best : Binary64} {entry : Ranked}
    (h : entry ∈ numbered best ordered) :
    entry.run ∈ ordered ∧ entry.relativeRate = percentOf best entry.run.rate := by
  obtain ⟨⟨run, index⟩, hmem, rfl⟩ := List.mem_map.mp h
  exact ⟨List.fst_mem_of_mem_zipIdx hmem, rfl⟩

/-- The runs of the entries of a ranking are the runs that were ranked. -/
theorem relativeRate_of_mem {entry : Ranked} (h : entry ∈ byRate runs ∨ entry ∈ byLatency runs) :
    entry.run ∈ runs ∧ entry.relativeRate = relativeRate runs entry.run := by
  rcases h with h | h
  · obtain ⟨hmem, hrate⟩ := relativeRate_of_mem_numbered h
    exact ⟨List.mem_mergeSort.mp hmem, hrate⟩
  · obtain ⟨hmem, hrate⟩ := relativeRate_of_mem_numbered h
    exact ⟨List.mem_mergeSort.mp hmem, hrate⟩

/-- The ranking by rate is a ranking by decreasing rate. -/
theorem isRankingOf_byRate (hrates : ∀ run ∈ runs, run.rate ≠ .nan) :
    IsRankingOf (fun a b => Binary64.le b.rate a.rate = true) runs (byRate runs) :=
  isRankingOf_numbered (fun a ha b hb => rateBefore_eq (hrates a ha) (hrates b hb))
    (fun a ha b hb => le_rate_iff (hrates a ha) (hrates b hb)) _

/-- Along the ranking by rate the rates do not increase. -/
theorem pairwise_byRate (hrates : ∀ run ∈ runs, run.rate.isFiniteNonneg = true) :
    (byRate runs).Pairwise fun a b => b.run.rate.point ≤ a.run.rate.point := by
  obtain ⟨-, placed, horder, hruns⟩ := isRankingOf_byRate (rate_ne_nan hrates)
  have hordered : ((byRate runs).map Ranked.run).Pairwise
      fun a b => Binary64.le b.rate a.rate = true := by
    rw [hruns, List.pairwise_map]
    exact horder.ordered
  rw [List.pairwise_map] at hordered
  refine hordered.imp_of_mem fun {a b} ha hb hab => ?_
  have hnumber : ∀ entry ∈ byRate runs, entry.run.rate ≠ .nan :=
    fun entry hentry => rate_ne_nan hrates _ (relativeRate_of_mem (.inl hentry)).1
  exact (Binary64.le_iff_point_le (hnumber b hb) (hnumber a ha)).mp hab

/-- Every run has an entry in the ranking by rate. -/
theorem exists_mem_byRate {run : Run} (hrun : run ∈ runs) :
    ∃ entry ∈ byRate runs, entry.run = run := by
  have hmem : run ∈ (byRate runs).map Ranked.run := by
    have hmap : (byRate runs).map Ranked.run = runs.mergeSort rateBefore := by
      rw [byRate, numbered, List.map_map]
      exact List.zipIdx_map_fst 0 _
    rw [hmap]
    exact List.mem_mergeSort.mpr hrun
  obtain ⟨entry, hentry, heq⟩ := List.mem_map.mp hmem
  exact ⟨entry, hentry, heq⟩

/-- The first run of the ranking by rate has the best rate, up to the sign of zero. -/
theorem eq_bestRate_of_byRate_eq_cons (hrates : ∀ run ∈ runs, run.rate.isFiniteNonneg = true)
    {first : Ranked} {later : List Ranked} (hfirst : byRate runs = first :: later) :
    first.run.rate = bestRate runs ∨ bestRate runs = .zero ∧ first.run.rate = Binary64.zero.neg := by
  have hmem : first ∈ byRate runs := by
    rw [hfirst]
    exact List.mem_cons_self
  have hrun := (relativeRate_of_mem (.inl hmem)).1
  have hrate := hrates _ hrun
  have hupper := point_rate_le hrates hrun
  rcases (isBestRate_bestRate runs).attained with hzero | ⟨hpos, best, hbest, heq⟩
  · -- The first rate is zero as well; a sign is all that can be different.
    obtain ⟨negative, m, hform, -, hsign⟩ := Binary64.exists_of_isFiniteNonneg hrate
    rw [hzero, Binary64.point_eq_size hrate, hform] at hupper
    have hplace : m.place = 0 := Nat.le_zero.mp (Int.ofNat_le.mp hupper)
    obtain rfl : m = .zero := Magnitude.eq_of_place_eq hplace
    rw [hzero, hform]
    cases negative with
    | false => exact .inl rfl
    | true => exact .inr ⟨rfl, rfl⟩
  · have hlower : (bestRate runs).point ≤ first.run.rate.point := by
      obtain ⟨entry, hentry, rfl⟩ := exists_mem_byRate hbest
      have hordered := pairwise_byRate hrates
      rw [hfirst] at hentry hordered
      rw [← heq]
      rcases List.mem_cons.mp hentry with rfl | hlater
      · exact Int.le_refl _
      · exact (List.pairwise_cons.mp hordered).1 entry hlater
    exact .inl (Binary64.eq_of_point_eq hpos (Int.le_antisymm hlower hupper)).symm

/-- The ranking by rate begins with the rank one, and only without runs it has no entry. -/
theorem rank_head_byRate (hrates : ∀ run ∈ runs, run.rate ≠ .nan) :
    match byRate runs with
    | [] => runs = []
    | first :: _ => first.rank = 1 := by
  have hranks := (isRankingOf_byRate hrates).1
  cases hranking : byRate runs with
  | nil =>
    have hlength := congrArg List.length hranks
    rw [hranking, List.length_range'] at hlength
    exact List.length_eq_zero_iff.mp hlength.symm
  | cons first later =>
    rw [hranking, List.map_cons] at hranks
    cases hlength : runs.length with
    | zero =>
      rw [hlength] at hranks
      cases hranks
    | succ n =>
      rw [hlength, List.range'_succ] at hranks
      exact (List.cons.inj hranks).1

/-! ### Relative rates -/

/-- Without a best rate above zero all relative rates are zero. -/
theorem relativeRate_eq_zero (hpos : Binary64.lt .zero (bestRate runs) = false) (run : Run) :
    relativeRate runs run = .zero := by
  rw [relativeRate, percentOf, hpos]
  rfl

/-- A run with the best rate has one hundred percent. -/
theorem relativeRate_eq_hundred (hrates : ∀ run ∈ runs, run.rate.isFiniteNonneg = true)
    (hpos : Binary64.lt .zero (bestRate runs) = true) {run : Run}
    (hbest : run.rate = bestRate runs) : relativeRate runs run = .ofNat 100 := by
  rw [relativeRate, hbest]
  exact percentOf_self (isDivisor_bestRate hrates hpos)

/-- Relative rates are in the order of the rates. -/
theorem relativeRate_point_le (hrates : ∀ run ∈ runs, run.rate.isFiniteNonneg = true) {a b : Run}
    (ha : a ∈ runs) (hb : b ∈ runs) (hab : a.rate.point ≤ b.rate.point) :
    (relativeRate runs a).point ≤ (relativeRate runs b).point := by
  cases hpos : Binary64.lt .zero (bestRate runs) with
  | true =>
    exact percentOf_point_le (isDivisor_bestRate hrates hpos) (hrates a ha) (hrates b hb) hab
      (point_rate_le hrates hb)
  | false =>
    have hequal : relativeRate runs a = relativeRate runs b := by
      rw [relativeRate_eq_zero hpos, relativeRate_eq_zero hpos]
    exact Int.le_of_eq (congrArg Binary64.point hequal)

/-- The relative rates of runs are numbers between zero and one hundred. -/
theorem relativeRate_bounds (hrates : ∀ run ∈ runs, run.rate.isFiniteNonneg = true) {run : Run}
    (hrun : run ∈ runs) :
    relativeRate runs run ≠ .nan ∧ 0 ≤ (relativeRate runs run).point
      ∧ (relativeRate runs run).point ≤ (Binary64.ofNat 100).point := by
  cases hpos : Binary64.lt .zero (bestRate runs) with
  | true =>
    have hdivisor := isDivisor_bestRate hrates hpos
    have hrate := hrates run hrun
    have hle := point_rate_le hrates hrun
    refine ⟨percentOf_ne_nan hdivisor hrate hle, zero_le_percentOf hdivisor hrate hle, ?_⟩
    rw [← percentOf_self hdivisor]
    exact percentOf_point_le hdivisor hrate hdivisor.isFiniteNonneg hle (Int.le_refl _)
  | false =>
    rw [relativeRate_eq_zero hpos]
    exact ⟨(Binary64.ne_nan_of_lt zero_lt_hundred).1, Int.le_refl _,
      Int.le_of_lt (Binary64.point_lt_of_lt zero_lt_hundred)⟩

/-- **Relative rates.**  For valid runs, the first run of the ranking by rate has the best rate, as
numbers compare, and without runs the best rate is zero.  All relative rates are between zero and one
hundred; they do not increase along the ranking.  If the best rate is above zero, the first run has
exactly one hundred percent, and otherwise every run has zero.  The order in which the runs are given
changes neither the best rate nor any relative rate. -/
theorem relativeRate_of_valid (hruns : ∀ run ∈ runs, run.fault? = none) :
    (match byRate runs with
      | [] => runs = [] ∧ bestRate runs = .zero
      | first :: _ =>
        first.rank = 1
          ∧ (first.run.rate = bestRate runs
            ∨ bestRate runs = .zero ∧ first.run.rate = Binary64.zero.neg)
          ∧ (Binary64.lt .zero (bestRate runs) = true → first.relativeRate = .ofNat 100))
      ∧ (∀ entry, entry ∈ byRate runs ∨ entry ∈ byLatency runs →
          entry.run ∈ runs ∧ entry.relativeRate = relativeRate runs entry.run)
      ∧ (∀ run ∈ runs, Binary64.le .zero (relativeRate runs run) = true
          ∧ Binary64.le (relativeRate runs run) (.ofNat 100) = true)
      ∧ ((byRate runs).Pairwise fun a b => Binary64.le b.relativeRate a.relativeRate = true)
      ∧ (Binary64.lt .zero (bestRate runs) = false → ∀ run, relativeRate runs run = .zero)
      ∧ ∀ others : List Run, others.Perm runs →
          bestRate others = bestRate runs
            ∧ ∀ run, relativeRate others run = relativeRate runs run := by
  have hrates : ∀ run ∈ runs, run.rate.isFiniteNonneg = true :=
    fun run hrun => (Run.fault?_eq_none_iff.mp (hruns run hrun)).2
  refine ⟨?_, fun _ => relativeRate_of_mem, ?_, ?_, relativeRate_eq_zero, ?_⟩
  · have hrank := rank_head_byRate (rate_ne_nan hrates)
    cases hranking : byRate runs with
    | nil =>
      rw [hranking] at hrank
      obtain rfl : runs = [] := hrank
      exact ⟨rfl, rfl⟩
    | cons first later =>
      rw [hranking] at hrank
      have hbest := eq_bestRate_of_byRate_eq_cons hrates hranking
      refine ⟨hrank, hbest, fun hpos => ?_⟩
      have hmem : first ∈ byRate runs := by
        rw [hranking]
        exact List.mem_cons_self
      rw [(relativeRate_of_mem (.inl hmem)).2]
      rcases hbest with hrate | ⟨hzero, -⟩
      · exact relativeRate_eq_hundred hrates hpos hrate
      · rw [hzero] at hpos
        cases hpos
  · intro run hrun
    obtain ⟨hnumber, hlower, hupper⟩ := relativeRate_bounds hrates hrun
    obtain ⟨hzero, hhundred⟩ := Binary64.ne_nan_of_lt zero_lt_hundred
    exact ⟨(Binary64.le_iff_point_le hzero hnumber).mpr hlower,
      (Binary64.le_iff_point_le hnumber hhundred).mpr hupper⟩
  · refine (pairwise_byRate hrates).imp_of_mem fun {a b} ha hb hab => ?_
    obtain ⟨harun, harate⟩ := relativeRate_of_mem (.inl ha)
    obtain ⟨hbrun, hbrate⟩ := relativeRate_of_mem (.inl hb)
    rw [harate, hbrate, Binary64.le_iff_point_le (relativeRate_bounds hrates hbrun).1
      (relativeRate_bounds hrates harun).1]
    exact relativeRate_point_le hrates hbrun harun hab
  · intro others hperm
    have hbest := bestRate_eq_of_perm hperm
    exact ⟨hbest, fun run => by rw [relativeRate, relativeRate, hbest]⟩

/-- Runs with the least and with the greatest positive rate, and with minus zero. -/
def extremeRuns : List Run :=
  [{ label := "minus", rate := Binary64.zero.neg, latency := ⟨⟨0⟩, ⟨0⟩, ⟨0⟩, .zero⟩ },
    { label := "least", rate := .number false ⟨1, by decide⟩, latency := ⟨⟨0⟩, ⟨0⟩, ⟨0⟩, .zero⟩ },
    { label := "greatest", rate := .number false ⟨infinityPlace - 1, by decide⟩,
      latency := ⟨⟨0⟩, ⟨0⟩, ⟨0⟩, .zero⟩ }]

/-- The relative rates of the extreme runs are in order and in bounds. -/
theorem relativeRate_extremeRuns :
    (∀ run ∈ extremeRuns, run.fault? = none)
      ∧ (∀ run ∈ extremeRuns, Binary64.le .zero (relativeRate extremeRuns run) = true
        ∧ Binary64.le (relativeRate extremeRuns run) (.ofNat 100) = true)
      ∧ ((byRate extremeRuns).Pairwise
        fun a b => Binary64.le b.relativeRate a.relativeRate = true)
      ∧ bestRate extremeRuns.reverse = bestRate extremeRuns := by
  have hruns : ∀ run ∈ extremeRuns, run.fault? = none := by decide
  obtain ⟨-, -, hbounds, hordered, -, hperm⟩ := relativeRate_of_valid hruns
  exact ⟨hruns, hbounds, hordered, (hperm _ (List.reverse_perm _)).1⟩

end Runs

end Ranking

end BenchCompare
