import TwoVenues.Proofs.Clusters.Groups
import TwoVenues.Proofs.Presence.Tables
import TwoVenues.Proofs.Statistics.Defined
import TwoVenues.Proofs.Statistics.Reported

/-!
# Sizes that are never or always present

The presence of such a size does not vary, so it correlates with nothing and the size is a group of
its own. Presence is counted in zeros and ones, whose sums are exact. The mean of equal values is
hence the value, and a mean of both zeros and ones is so far from one of them that its difference to
it is not lost in rounding.

* `SizeStats.IsConstant` : the size is never present, or always;
* `PresenceRow.liesOnMean_iff` : a row lies on its mean just if its size is so;
* `PresenceRow.isNaN_correlation_iff`, `PresenceRow.isNaN_pValue_iff` : the correlation of two rows
  and its p-value, under a distribution function;
* `PresenceReport.SeparatesConstant` : what a report has to say about such sizes;
* `PresenceReport.ofSeries_undefined_iff_constant` : the correlations and groups of a report.
-/

namespace TwoVenues
open Double Statistics

/-- The size is never present, or always. -/
def SizeStats.IsConstant (r : SizeStats) : Prop :=
  r.presentCount = 0 ∨ r.presentCount = r.totalCount

instance : DecidablePred SizeStats.IsConstant := fun r =>
  inferInstanceAs (Decidable (r.presentCount = 0 ∨ r.presentCount = r.totalCount))

/-! ## Rows of zeros and ones -/

namespace PresenceRow
variable {row : List Bool}

theorem isSmall_toNumbers (hne : row ≠ []) (hn : row.length < 2 ^ 53) : IsSmall (toNumbers row) where
  ne_nil := fun h => hne (List.map_eq_nil_iff.1 h)
  length_lt := by rwa [toNumbers, List.length_map]
  bounded := by
    intro x hx
    obtain ⟨p, -, rfl⟩ := List.mem_map.1 hx
    cases p
    · exact ⟨0, denotes_zero, by norm_num⟩
    · exact ⟨1, denotes_one, by norm_num⟩

/-- The mean of equal zeros or ones is exact. -/
theorem liesOnMean_of_eq {p : Bool} (hn : row.length < 2 ^ 53) (h : ∀ q ∈ row, q = p) :
    LiesOnMean (toNumbers row) := by
  by_cases hne : row = []
  · subst hne
    exact fun x hx => absurd hx List.not_mem_nil
  have hvalues : ∀ x ∈ toNumbers row, x = if p then 1.0 else 0.0 := by
    intro x hx
    obtain ⟨q, hq, rfl⟩ := List.mem_map.1 hx
    rw [h q hq]
  have hflat : IsFlat (toNumbers row) := by
    intro x hx y hy
    rw [hvalues x hx, hvalues y hy]
    cases p <;> rfl
  obtain ⟨x, hx⟩ := List.exists_mem_of_ne_nil _ (isSmall_toNumbers hne hn).ne_nil
  refine hflat.liesOnMean hx ?_
  rw [hvalues x hx, toNumbers, List.length_map]
  cases p
  · exact copiesFit_of_lt (k := 0) (f := 0) hn (by simpa using denotes_zero) (by simp) (by decide)
  · exact copiesFit_of_lt (k := 1) (f := 0) hn (by simpa using denotes_one) (by simpa using hn)
      (by decide)

theorem liesOnMean_iff (x : Size) (hn : row.length < 2 ^ 53) :
    LiesOnMean (toNumbers row) ↔ (stats row.length (x, row)).IsConstant := by
  show _ ↔ row.countP id = 0 ∨ row.countP id = row.length
  constructor
  · intro hlies
    by_contra hvaries
    rw [not_or, List.countP_eq_zero, List.countP_eq_length] at hvaries
    obtain ⟨hsome, hnotall⟩ := hvaries
    have htrue : true ∈ row := by simpa using hsome
    have hfalse : false ∈ row := by simpa using hnotall
    exact (isSmall_toNumbers (List.ne_nil_of_mem htrue) hn).not_liesOnMean
      (List.mem_map_of_mem hfalse) (List.mem_map_of_mem htrue) denotes_zero denotes_one hlies
  · rintro (hnever | halways)
    · exact liesOnMean_of_eq hn (p := false) (by simpa using List.countP_eq_zero.1 hnever)
    · exact liesOnMean_of_eq hn (p := true) (by simpa using List.countP_eq_length.1 halways)

theorem two_le_length (x : Size) (h : ¬(stats row.length (x, row)).IsConstant) :
    2 ≤ row.length := by
  obtain ⟨hsome, hnotall⟩ : ¬row.countP id = 0 ∧ ¬row.countP id = row.length := not_or.1 h
  have hle : row.countP id ≤ row.length := List.countP_le_length
  omega

section Rows
variable {row₁ row₂ : List Bool} (x y : Size) (cdf : Float → Float → Float)

/-- The correlation of two rows is a number just if both vary. -/
theorem isNaN_correlation_iff (hlen : row₁.length = row₂.length) (hn : row₁.length < 2 ^ 53) :
    (correlationBy (pearsonUnder cdf) ((x, row₁), (y, row₂))).correlation.isNaN = true ↔
      (stats row₁.length (x, row₁)).IsConstant ∨ (stats row₂.length (y, row₂)).IsConstant := by
  have hn' : row₂.length < 2 ^ 53 := hlen ▸ hn
  have hnumbers : ∀ row, (toNumbers row).length = row.length := fun row => List.length_map _
  rw [← liesOnMean_iff x hn, ← liesOnMean_iff y hn']
  show (pearsonUnder cdf (toNumbers row₁) (toNumbers row₂)).r.isNaN = true ↔ _
  rw [r_pearsonUnder]
  constructor
  · intro hnan
    by_contra hlies
    obtain ⟨hx, hy⟩ := not_or.1 hlies
    have h2 := two_le_length x (mt (liesOnMean_iff x hn).2 hx)
    have hne : row₁ ≠ [] := List.ne_nil_of_length_pos (by omega)
    have hne' : row₂ ≠ [] := List.ne_nil_of_length_pos (by omega)
    rw [IsSmall.isNaN_pearson (by rw [hnumbers, hnumbers, hlen]) (h2.trans_eq (hnumbers row₁).symm)
      (isSmall_toNumbers hne hn) (isSmall_toNumbers hne' hn') hx hy] at hnan
    cases hnan
  · intro hlies
    rw [pearson_eq_undefined hlies]
    decide

/-- The p-value of two rows is a number just if their correlation is. -/
theorem isNaN_pValue_iff {cdf : Float → Float → Float} (hcdf : IsDefined cdf)
    (hn : row₁.length < 2 ^ 53) :
    (correlationBy (pearsonUnder cdf) ((x, row₁), (y, row₂))).pValue.isNaN = true ↔
      (correlationBy (pearsonUnder cdf) ((x, row₁), (y, row₂))).correlation.isNaN = true := by
  refine (pearsonUnder_isCoupled (toNumbers row₁) (toNumbers row₂) hcdf ?_).isNaN_iff
  rw [toNumbers, List.length_map]
  omega

end Rows

end PresenceRow

namespace PresenceReport
open PresenceMatrix

/-! ## Reports -/

/-- The report with p-values under a distribution function. -/
abbrev ofSeriesUnder (cdf : Float → Float → Float) (s : PresenceSettings)
    (series : PresenceSeries) : PresenceReport :=
  ofSeriesBy (pearsonUnder cdf) s series

/-- A value of two sizes is not a number just if one of them is never or always present. -/
def UndefinedOnConstant (report : PresenceReport) (value : SizeCorrelation → Float) : Prop :=
  ∀ c ∈ report.correlations, ∀ r₁ ∈ report.stats, ∀ r₂ ∈ report.stats,
    r₁.size = c.size1 → r₂.size = c.size2 →
    ((value c).isNaN = true ↔ r₁.IsConstant ∨ r₂.IsConstant)

/-- What a report under a distribution function says about the sizes that are never or always
present. Such a size is a group of its own. -/
structure SeparatesConstant (cdf : Float → Float → Float) (report : PresenceReport) : Prop where
  rows : ∀ c ∈ report.correlations,
    (∃ r ∈ report.stats, r.size = c.size1) ∧ ∃ r ∈ report.stats, r.size = c.size2
  correlation : report.UndefinedOnConstant (·.correlation)
  together : ∀ c ∈ report.correlations, c.correlation.isNaN = true → c.pValue.isNaN = true
  pValue : IsDefined cdf → report.UndefinedOnConstant (·.pValue)
  alone : ∀ r ∈ report.stats, r.IsConstant → ∃ g ∈ report.groups, g.sizes = [r.size]
  nowhere_else : ∀ r ∈ report.stats, r.IsConstant → ∀ g ∈ report.groups, r.size ∈ g.sizes →
    g.sizes = [r.size]

variable {cdf : Float → Float → Float} {s : PresenceSettings} {series : PresenceSeries}

theorem exists_stats {e : Size × List Sighting} (he : e ∈ series.entries) :
    ∃ r ∈ (ofSeriesUnder cdf s series).stats, r.size = e.1 := by
  show ∃ r ∈ (ofSeries s series).stats, r.size = e.1
  exact ⟨_, mem_stats_ofSeries.2 ⟨e, he, rfl⟩, rfl⟩

theorem isNaN_correlation_iff_of_mem (hn : (PresenceMatrix.ofSeries series).times.length < 2 ^ 53)
    {c : SizeCorrelation} (hc : c ∈ (ofSeriesUnder cdf s series).correlations) {r₁ r₂ : SizeStats}
    (hr₁ : r₁ ∈ (ofSeries s series).stats) (hr₂ : r₂ ∈ (ofSeries s series).stats)
    (h₁ : c.size1.valueKey = r₁.size.valueKey) (h₂ : c.size2.valueKey = r₂.size.valueKey) :
    c.correlation.isNaN = true ↔ r₁.IsConstant ∨ r₂.IsConstant := by
  rw [correlations_ofSeriesBy] at hc
  obtain ⟨d, hd, e, he, rfl⟩ := exists_of_mem_map_laterPairs hc
  rw [eq_stats_of_valueKey_eq hr₁ hd h₁, eq_stats_of_valueKey_eq hr₂ he h₂]
  have hiff := PresenceRow.isNaN_correlation_iff d.1 e.1 cdf
    ((length_rowOf series d).trans (length_rowOf series e).symm) ((length_rowOf series d).trans_lt hn)
  rwa [length_rowOf, length_rowOf] at hiff

theorem isNaN_pValue_of_mem {c : SizeCorrelation}
    (hc : c ∈ (ofSeriesUnder cdf s series).correlations) (h : c.correlation.isNaN = true) :
    c.pValue.isNaN = true := by
  rw [correlations_ofSeriesBy] at hc
  obtain ⟨d, -, e, -, rfl⟩ := exists_of_mem_map_laterPairs hc
  exact isNaN_p_of_isNaN_r _ _ h

theorem isNaN_pValue_iff_of_mem (hcdf : IsDefined cdf)
    (hn : (PresenceMatrix.ofSeries series).times.length < 2 ^ 53) {c : SizeCorrelation}
    (hc : c ∈ (ofSeriesUnder cdf s series).correlations) :
    c.pValue.isNaN = true ↔ c.correlation.isNaN = true := by
  rw [correlations_ofSeriesBy] at hc
  obtain ⟨d, -, e, -, rfl⟩ := exists_of_mem_map_laterPairs hc
  exact PresenceRow.isNaN_pValue_iff d.1 e.1 hcdf ((length_rowOf series d).trans_lt hn)

theorem nodup_keys_stats (s : PresenceSettings) (series : PresenceSeries) :
    ((ofSeries s series).stats.map (·.size.valueKey)).Nodup := by
  have hsizes := (ofSeries_isMatrix series).sizes_ascending
  rw [← (ofSeries_isTables s series).sizes, List.pairwise_map] at hsizes
  exact List.pairwise_map.2 (hsizes.imp Int.ne_of_lt)

/-- No correlation of a size that does not vary is a link. -/
theorem not_linked_of_isConstant (hn : (PresenceMatrix.ofSeries series).times.length < 2 ^ 53)
    (minCorrelation maxPValue : Float) {r₁ r₂ : SizeStats} (hr₁ : r₁ ∈ (ofSeries s series).stats)
    (hr₂ : r₂ ∈ (ofSeries s series).stats) (h : r₁.IsConstant ∨ r₂.IsConstant) :
    ¬SizeGroup.Linked (ofSeries s series).stats (ofSeriesUnder cdf s series).correlations
      minCorrelation maxPValue r₁.size r₂.size := by
  rintro ⟨-, -, pair, hpair, hlink, h₁, h₂⟩
  have hundefined := (isNaN_correlation_iff_of_mem hn hpair hr₁ hr₂ h₁ h₂).2 h
  rw [pair.isLink_eq_false _ _ (Or.inl hundefined)] at hlink
  cases hlink

theorem eq_of_linked (cdf : Float → Float → Float)
    (hn : (PresenceMatrix.ofSeries series).times.length < 2 ^ 53) (minCorrelation maxPValue : Float)
    {r : SizeStats} (hr : r ∈ (ofSeries s series).stats) (hconstant : r.IsConstant) (y : Size)
    (h : SizeGroup.Linked (ofSeries s series).stats (ofSeriesUnder cdf s series).correlations
        minCorrelation maxPValue r.size y ∨
      SizeGroup.Linked (ofSeries s series).stats (ofSeriesUnder cdf s series).correlations
        minCorrelation maxPValue y r.size) : y = r.size := by
  rcases h with h | h
  · obtain ⟨r', hr', rfl⟩ := List.mem_map.1 h.2.1
    exact absurd h (not_linked_of_isConstant hn _ _ hr hr' (Or.inl hconstant))
  · obtain ⟨r', hr', rfl⟩ := List.mem_map.1 h.1
    exact absurd h (not_linked_of_isConstant hn _ _ hr' hr (Or.inr hconstant))

/-- **A presence correlation is undefined just for sizes that are never or always present.** With
fewer than `2 ^ 53` times, the correlation of two sizes is not a number, nor is its p-value, exactly
if one of the two is present at none of the times or at all of them. Whatever the thresholds, such a
size is a group of its own. Of the distribution function it is only asked, for p-values that are
numbers, that it is a number where it is asked for a number; the report as it is has `studentCdf`
for it. -/
theorem ofSeries_undefined_iff_constant (cdf : Float → Float → Float) (s : PresenceSettings)
    (series : PresenceSeries) (hn : (PresenceMatrix.ofSeries series).times.length < 2 ^ 53) :
    SeparatesConstant cdf (ofSeriesUnder cdf s series) ∧
      ofSeries s series = ofSeriesUnder studentCdf s series := by
  have hstats := nodup_keys_stats s series
  have hroot := SizeGroup.root_sets_eq_iff hstats (ofSeriesUnder cdf s series).correlations
    s.clusterMinCorrelation s.clusterMaxPValue
  have halone : ∀ r ∈ (ofSeries s series).stats, r.IsConstant → _ := fun r hr hconstant =>
    eq_of_linked cdf hn s.clusterMinCorrelation s.clusterMaxPValue hr hconstant
  have hcorrelation : (ofSeriesUnder cdf s series).UndefinedOnConstant (·.correlation) := by
    intro c hc r₁ hr₁ r₂ hr₂ h₁ h₂
    exact isNaN_correlation_iff_of_mem hn hc hr₁ hr₂ (congrArg (·.valueKey) h₁.symm)
      (congrArg (·.valueKey) h₂.symm)
  refine ⟨⟨?rows, hcorrelation, fun _ => isNaN_pValue_of_mem, ?pValue, ?alone, ?nowhere_else⟩, rfl⟩
  case rows =>
    intro c hc
    rw [correlations_ofSeriesBy] at hc
    obtain ⟨d, hd, e, he, rfl⟩ := exists_of_mem_map_laterPairs hc
    exact ⟨exists_stats hd, exists_stats he⟩
  case pValue =>
    intro hcdf c hc r₁ hr₁ r₂ hr₂ h₁ h₂
    exact (isNaN_pValue_iff_of_mem hcdf hn hc).trans (hcorrelation c hc r₁ hr₁ r₂ hr₂ h₁ h₂)
  case alone =>
    intro r hr hconstant
    exact SizeGroup.exists_singleton hstats hroot (List.mem_map_of_mem hr) (halone r hr hconstant)
  case nowhere_else =>
    intro r hr hconstant g hg hmem
    exact SizeGroup.sizes_eq_singleton hstats hroot (halone r hr hconstant) hg hmem

/-- Of three sizes the first is always present. The other two go together no more than by chance,
which at zero, where half of every distribution is on the left, has a p-value of one. -/
theorem ofSeries_undefined_iff_constant_of_three :
    let cdf := fun _ _ : Float => (0.5 : Float)
    let sightings := fun (size : Float) (present : List Bool) => (Double.Signed.ofFloat size,
      present.zipIdx.map fun p => (⟨.ofFloat size, p.2, p.1⟩ : Sighting))
    let series : PresenceSeries := .ofList [sightings 10.0 [true, true, true, true],
      sightings 25.0 [true, true, false, false], sightings 50.0 [true, false, true, false]]
    (PresenceMatrix.ofSeries series).times.length < 2 ^ 53 ∧ IsDefined cdf ∧
      ofSeries {} series = ofSeriesUnder cdf {} series ∧
      (∃ c ∈ (ofSeriesUnder cdf {} series).correlations,
        c.size1 = .ofFloat 10.0 ∧ c.size2 = .ofFloat 25.0 ∧
        c.correlation.isNaN = true ∧ c.pValue.isNaN = true) ∧
      (∃ c ∈ (ofSeriesUnder cdf {} series).correlations,
        c.size1 = .ofFloat 25.0 ∧ c.size2 = .ofFloat 50.0 ∧
        ¬c.correlation.isNaN = true ∧ ¬c.pValue.isNaN = true ∧ c.pValue = 1.0) ∧
      ∃ g ∈ (ofSeriesUnder cdf {} series).groups, g.sizes = [.ofFloat 10.0] := by
  intro cdf sightings series
  have hn : (PresenceMatrix.ofSeries series).times.length < 2 ^ 53 := by decide +kernel
  have hnumber : (0.5 : Float).isNaN = false := by decide
  have hcdf : IsDefined cdf := fun _ _ _ _ => hnumber
  obtain ⟨hreport, -⟩ := ofSeries_undefined_iff_constant cdf {} series hn
  obtain ⟨r₁, hr₁, h₁, hc₁⟩ : ∃ r ∈ (ofSeriesUnder cdf {} series).stats,
      r.size = .ofFloat 10.0 ∧ r.IsConstant := by decide +kernel
  obtain ⟨r₂, hr₂, h₂, hc₂⟩ : ∃ r ∈ (ofSeriesUnder cdf {} series).stats,
      r.size = .ofFloat 25.0 ∧ ¬r.IsConstant := by decide +kernel
  obtain ⟨r₃, hr₃, h₃, hc₃⟩ : ∃ r ∈ (ofSeriesUnder cdf {} series).stats,
      r.size = .ofFloat 50.0 ∧ ¬r.IsConstant := by decide +kernel
  obtain ⟨c, hc, hc1, hc2⟩ : ∃ c ∈ (ofSeriesUnder cdf {} series).correlations,
      c.size1 = .ofFloat 10.0 ∧ c.size2 = .ofFloat 25.0 := by decide +kernel
  obtain ⟨d, hd, hd1, hd2, hp⟩ : ∃ c ∈ (ofSeriesUnder cdf {} series).correlations,
      c.size1 = .ofFloat 25.0 ∧ c.size2 = .ofFloat 50.0 ∧ c.pValue = 1.0 := by decide +kernel
  have hvaries : ¬(r₂.IsConstant ∨ r₃.IsConstant) := not_or.2 ⟨hc₂, hc₃⟩
  have hcs := hreport.correlation c hc r₁ hr₁ r₂ hr₂ (h₁.trans hc1.symm) (h₂.trans hc2.symm)
  have hps := hreport.pValue hcdf c hc r₁ hr₁ r₂ hr₂ (h₁.trans hc1.symm) (h₂.trans hc2.symm)
  have hcs' := hreport.correlation d hd r₂ hr₂ r₃ hr₃ (h₂.trans hd1.symm) (h₃.trans hd2.symm)
  have hps' := hreport.pValue hcdf d hd r₂ hr₂ r₃ hr₃ (h₂.trans hd1.symm) (h₃.trans hd2.symm)
  refine ⟨hn, hcdf, by decide +kernel, ⟨c, hc, hc1, hc2, hcs.2 (Or.inl hc₁), hps.2 (Or.inl hc₁)⟩,
    ⟨d, hd, hd1, hd2, mt hcs'.1 hvaries, mt hps'.1 hvaries, hp⟩, ?_⟩
  rw [← h₁]
  exact hreport.alone r₁ hr₁ hc₁

end PresenceReport

end TwoVenues
