import ErrorCatalog.Text.Words
import Mathlib.Data.List.Basic
/-!
# What words are made of

Every rule for cutting words looks at clusters and cuts between them, so that none of the clusters
is lost but the separators, and none is moved or doubled. Lower case acts on each character alone
unless there is a capital sigma. Then it does not matter where words were cut.
-/

namespace ErrorCatalog

namespace Text

variable {t : Text}

/-! ## Cutting -/

/-- The clusters of a text that do not separate words. -/
def keptClusters (t : Text) : List Text :=
  (clusters t).filter fun cluster => !isSeparator cluster

theorem flatten_prependCluster (cluster : Text) (words : List Text) :
    (prependCluster cluster words).flatten = cluster ++ words.flatten := by
  cases words with
  | nil => simp [prependCluster]
  | cons word others => simp [prependCluster]

/-- The words of a sequence of clusters hold the clusters but the separators, in order. -/
theorem flatten_clusterWords (cs : List Text) :
    (clusterWords cs).flatten = (cs.filter fun cluster => !isSeparator cluster).flatten := by
  -- One case for each way to go on at the first cluster; only a separator is not put anywhere.
  fun_induction clusterWords cs with
  | case1 => rfl
  | case2 cluster hseparator => simp [hseparator]
  | case3 cluster hkept => simp [hkept]
  | case4 left right rest behind hseparator ih => simp [hseparator, behind, ih]
  | case5 left right rest behind hkept hcut ih => simp [hkept, behind, ih]
  | case6 left right rest behind hkept hsame ih =>
    simp [hkept, behind, flatten_prependCluster, ih]

/-- Words are cut out of the clusters that are kept, and none is lost. -/
theorem flatten_words (t : Text) : (words t).flatten = (keptClusters t).flatten := by
  rw [words, List.flatten_filter_not_isEmpty, flatten_clusterWords, keptClusters]

/-- The clusters that are kept bring in no new character. -/
theorem mem_of_mem_keptClusters {c : Char} (h : c ∈ (keptClusters t).flatten) : c ∈ t := by
  rcases List.mem_flatten.1 h with ⟨cluster, hkept, hc⟩
  rw [← flatten_clusters t]
  exact List.mem_flatten.2 ⟨cluster, (List.mem_filter.1 hkept).1, hc⟩

/-! ## Lower case -/

/-- Without a capital sigma, parts of a text are lowered as the whole of it. -/
theorem flatMap_lower {parts : List Text} (h : 'Σ' ∉ parts.flatten) :
    parts.flatMap lower = parts.flatten.flatMap lowerChar := by
  have hpart : ∀ part ∈ parts, lower part = part.flatMap lowerChar := by
    intro part hpart
    apply lowerAfter_eq_flatMap
    intro hmem
    exact h (List.mem_flatten.2 ⟨part, hpart, hmem⟩)
  calc
    parts.flatMap lower = parts.flatMap fun part => part.flatMap lowerChar :=
      List.flatMap_congr hpart
    _ = parts.flatten.flatMap lowerChar := by
      rw [← List.flatMap_id, List.flatMap_assoc]
      rfl

/-- Without a capital sigma outside of separators, flat case is lower case of all else. -/
theorem flatCase_eq_flatMap (h : 'Σ' ∉ (keptClusters t).flatten) :
    flatCase t = (keptClusters t).flatten.flatMap lowerChar := by
  rw [← flatten_words] at h ⊢
  exact flatMap_lower h

end Text

end ErrorCatalog
