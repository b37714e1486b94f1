import Mathlib.Data.List.Lex
import Mathlib.Data.Prod.Lex
import Mathlib.Data.String.Basic
import VisitorGen.FileTree.Path

set_option autoImplicit false

/-! # Paths in order

Paths are compared by where they start, then by their components, and these by their kind and then by
their characters. That is the lexicographic order of a key (`Path.lt_iff_key_lt`), hence sorting by it
puts no path behind a greater one (`sortPaths_pairwise`). -/

namespace VisitorGen

namespace Path

/-! ## Keys -/

/-- What a component is compared by: the dot, the double dot and names are of different kinds. -/
def componentKey (s : String) : ℕ ×ₗ String :=
  toLex (if s = "." then 0 else if s = ".." then 1 else 2, s)

theorem componentKey_injective : Function.Injective componentKey :=
  fun _ _ h => congrArg (fun key => (ofLex key).2) h

/-- What a path is compared by. -/
def key (p : Path) : Bool ×ₗ List (ℕ ×ₗ String) :=
  toLex (!p.absolute, p.components.map componentKey)

theorem componentLt_iff {a b : String} :
    componentLt a b = true ↔ componentKey a < componentKey b := by
  simp only [componentLt, componentKey, Prod.Lex.toLex_lt_toLex, Bool.or_eq_true, Bool.and_eq_true,
    decide_eq_true_eq]

theorem componentsLt_iff {as bs : List String} :
    componentsLt as bs = true ↔ as.map componentKey < bs.map componentKey := by
  induction as generalizing bs with
  | nil => cases bs <;> simp [componentsLt]
  | cons a as ih =>
    cases bs with
    | nil => simp [componentsLt]
    | cons b bs =>
      rw [componentsLt, List.map_cons, List.map_cons, List.cons_lt_cons_iff, Bool.or_eq_true,
        Bool.and_eq_true, decide_eq_true_eq, componentLt_iff, ih, componentKey_injective.eq_iff]

theorem lt_iff_key_lt {p q : Path} : p.lt q = true ↔ p.key < q.key := by
  rw [lt, key, key, Prod.Lex.toLex_lt_toLex]
  cases p.absolute <;> cases q.absolute <;> simp [componentsLt_iff]

theorem not_lt_iff_key_le {p q : Path} : p.lt q = false ↔ q.key ≤ p.key := by
  rw [← Bool.not_eq_true, lt_iff_key_lt, not_lt]

end Path

/-! ## Sorting -/

/-- Sorted paths: none stands behind one that is greater. -/
theorem sortPaths_pairwise (paths : List String) :
    (sortPaths paths).Pairwise fun a b => (Path.parse b).lt (Path.parse a) = false := by
  have hle : ∀ a b : String, (!(Path.parse b).lt (Path.parse a)) = true ↔
      (Path.parse a).key ≤ (Path.parse b).key := by
    intro a b
    rw [Bool.not_eq_true', Path.not_lt_iff_key_le]
  have htrans : ∀ a b c : String, (!(Path.parse b).lt (Path.parse a)) = true →
      (!(Path.parse c).lt (Path.parse b)) = true → (!(Path.parse c).lt (Path.parse a)) = true := by
    intro a b c hab hbc
    rw [hle] at hab hbc ⊢
    exact le_trans hab hbc
  have htotal : ∀ a b : String,
      (!(Path.parse b).lt (Path.parse a) || !(Path.parse a).lt (Path.parse b)) = true := by
    intro a b
    rw [Bool.or_eq_true, hle, hle]
    exact le_total _ _
  exact (List.pairwise_mergeSort htrans htotal paths).imp fun h => by simpa using h

theorem sortPaths_perm (paths : List String) : (sortPaths paths).Perm paths :=
  List.mergeSort_perm paths _

end VisitorGen
