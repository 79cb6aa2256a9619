/-
# The model that is suggested and the model that is selected

`client/app.rs`: the list of models that match what was typed (`matching_models`) and the
model that a submitted command selects (`best_model_match`) rank by the same score.  The one
sorts stably, so it begins with the first model of the greatest score; the other takes a
maximum, which is the last one.  They agree exactly where those two are the same
(`best_eq_head_iff`).  Which characters are alphanumeric, and what they are in lower case, is
a parameter.
-/

import Mathlib.Data.Nat.Basic
import Moh.Library.Ranking
import Moh.Session.Types

namespace Moh
namespace Client

/-- `usize::MAX`. -/
def usizeMax : ℕ := 18446744073709551615

/-- `char_indices` from a byte offset on. -/
def charIndices : ℕ → List Char → List (ℕ × Char)
  | _, [] => []
  | index, c :: cs => (index, c) :: charIndices (index + c.utf8Size) cs

/-- The loop of `fuzzy_subsequence_score`. -/
def fuzzyFrom : Option ℕ → ℕ → List Char → List (ℕ × Char) → Option ℕ
  | _, score, [], _ => some score
  | previous, score, wanted :: query, candidate =>
    match candidate.dropWhile fun entry => entry.2 ≠ wanted with
    | [] => none
    | (index, _) :: rest =>
      fuzzyFrom (some index)
        (score + 10 + if previous.any fun previous => index = previous + 1 then 5 else 0) query rest

/-- `fuzzy_subsequence_score`. -/
def fuzzySubsequenceScore (query candidate : List Char) : Option ℕ :=
  if query = candidate then some usizeMax
  else fuzzyFrom none 0 query (charIndices 0 candidate)

/-- What the standard library knows of characters. -/
structure CharClasses where
  isAlphanumeric : Char → Bool
  toLowercase : Char → List Char

variable (classes : CharClasses)

/-- `normalize_model_query`. -/
def normalizeModelQuery (value : String) : List Char :=
  (value.toList.filter classes.isAlphanumeric).flatMap classes.toLowercase

/-- The score of a model: the better one of its identifier and its name. -/
def modelScore (query : List Char) (model : ModelInfoDto) : Option ℕ :=
  ((fuzzySubsequenceScore query (normalizeModelQuery classes model.id)).toList ++
    (fuzzySubsequenceScore query (normalizeModelQuery classes model.displayName)).toList).max?

/-- The models that match, with their scores, in the order of the catalog. -/
def scored (query : List Char) (models : List ModelInfoDto) : List (ℕ × ModelInfoDto) :=
  models.filterMap fun model => (modelScore classes query model).map fun score => (score, model)

/-- `best_model_match`. -/
def bestModelMatch (query : String) (models : List ModelInfoDto) : Option ModelInfoDto :=
  let query := normalizeModelQuery classes query
  if query.isEmpty then none
  else (Ranking.maxByKey Prod.fst (scored classes query models)).map Prod.snd

/-- `matching_models`. -/
def matchingModels (query : String) (models : List ModelInfoDto) : List ModelInfoDto :=
  let query := normalizeModelQuery classes query
  if query.isEmpty then models
  else (Ranking.sortByKeyDesc Prod.fst (scored classes query models)).map Prod.snd

/-- The models whose score is the greatest, in the order of the catalog. -/
def leadingModels (query : String) (models : List ModelInfoDto) : List ModelInfoDto :=
  (Ranking.leaders Prod.fst (scored classes (normalizeModelQuery classes query) models)).map
    Prod.snd

/-- **The selected model is the first suggestion,** and there is none exactly if nothing is
suggested. -/
structure SelectsSuggestion (query : String) (models : List ModelInfoDto) : Prop where
  first : bestModelMatch classes query models = (matchingModels classes query models).head?
  none : bestModelMatch classes query models = none ↔ matchingModels classes query models = []

variable {classes}

/-- Nothing matches for the one exactly if nothing does for the other. -/
theorem best_eq_none_iff {query : String} (hquery : normalizeModelQuery classes query ≠ [])
    (models : List ModelInfoDto) :
    bestModelMatch classes query models = none ↔ matchingModels classes query models = [] := by
  have hne : ¬(normalizeModelQuery classes query).isEmpty = true := by simpa using hquery
  simp only [bestModelMatch, matchingModels, if_neg hne, Option.map_eq_none_iff,
    List.map_eq_nil_iff]
  generalize scored classes (normalizeModelQuery classes query) models = l
  have hsort : Ranking.sortByKeyDesc Prod.fst l = [] ↔ l = [] := by
    rw [← List.length_eq_zero_iff, Ranking.sortByKeyDesc, List.length_mergeSort,
      List.length_eq_zero_iff]
  rw [hsort]
  cases l <;> simp [Ranking.maxByKey]

/-- The selected model is the last leading one. -/
theorem bestModelMatch_eq {query : String} (hquery : normalizeModelQuery classes query ≠ [])
    (models : List ModelInfoDto) :
    bestModelMatch classes query models = (leadingModels classes query models).getLast? := by
  have hne : ¬(normalizeModelQuery classes query).isEmpty = true := by simpa using hquery
  simp only [bestModelMatch, if_neg hne, leadingModels, Ranking.maxByKey_eq, List.getLast?_map]

/-- The first suggestion is the first leading model. -/
theorem head?_matchingModels {query : String} (hquery : normalizeModelQuery classes query ≠ [])
    (models : List ModelInfoDto) :
    (matchingModels classes query models).head? = (leadingModels classes query models).head? := by
  have hne : ¬(normalizeModelQuery classes query).isEmpty = true := by simpa using hquery
  simp only [matchingModels, if_neg hne, leadingModels, List.head?_map,
    Ranking.head?_sortByKeyDesc]

/-- **Where suggestion and execution agree:** exactly if the first model of the greatest score
is the last one, too. -/
theorem best_eq_head_iff {query : String} (hquery : normalizeModelQuery classes query ≠ [])
    (models : List ModelInfoDto) :
    SelectsSuggestion classes query models ↔
      (leadingModels classes query models).head? =
        (leadingModels classes query models).getLast? := by
  constructor
  · intro h
    rw [← head?_matchingModels hquery, ← bestModelMatch_eq hquery, h.first]
  · intro h
    refine ⟨?_, best_eq_none_iff hquery models⟩
    rw [bestModelMatch_eq hquery, head?_matchingModels hquery, h]

/-- The classes of the ASCII characters. -/
def asciiClasses : CharClasses := ⟨Char.isAlphanum, fun c => [c.toLower]⟩

/-- Two models that the same queries match equally well. -/
def twinModels : List ModelInfoDto :=
  [⟨"gpt-a", "GPT A", "", [.medium], some .medium⟩, ⟨"gpt-b", "GPT B", "", [.medium], some .medium⟩]

/-- `best_eq_head_iff` for a query that one of the twins matches. -/
theorem best_eq_head_twins : SelectsSuggestion asciiClasses "a" twinModels ↔
    (leadingModels asciiClasses "a" twinModels).head? =
      (leadingModels asciiClasses "a" twinModels).getLast? :=
  best_eq_head_iff (by decide +kernel) twinModels

/-- **The last of two equal matches is selected,** where the first is suggested. -/
theorem twin_selected : ¬∀ (classes : CharClasses) (query : String) (models : List ModelInfoDto),
    normalizeModelQuery classes query ≠ [] → SelectsSuggestion classes query models := by
  intro hall
  have hquery : normalizeModelQuery asciiClasses "gpt" ≠ [] := by decide +kernel
  have hfirst := (hall asciiClasses "gpt" twinModels hquery).first
  rw [bestModelMatch_eq hquery, head?_matchingModels hquery] at hfirst
  exact absurd hfirst (by decide +kernel)

end Client
end Moh
