import Mathlib.Data.List.Basic
import Mathlib.Data.List.Induction

set_option autoImplicit false

/-! # The first fault of a list

Readers go through a list and stop at the first element at fault. Whether an element is at fault can
depend on those before it: a name may be taken, a family may be defined. So a fault is a relation
between an element and the elements before it. -/

namespace VisitorGen

variable {α : Type}

/-- No element of the list is at fault behind those before it. -/
def NoFaultIn (fault : List α → α → Prop) (as : List α) : Prop :=
  ∀ front a back, as = front ++ a :: back → ¬ fault front a

variable {fault : List α → α → Prop}

theorem noFaultIn_nil : NoFaultIn fault [] :=
  fun front a back h => absurd h (by simp)

theorem NoFaultIn.of_append {front back : List α} (h : NoFaultIn fault (front ++ back)) :
    NoFaultIn fault front := by
  rintro before a after rfl
  exact h before a (after ++ back) (by simp)

/-- One more element is at fault, or there still is no fault. -/
theorem NoFaultIn.concat {as : List α} {a : α} (h : NoFaultIn fault as) (ha : ¬ fault as a) :
    NoFaultIn fault (as ++ [a]) := by
  intro front b back hsplit
  rcases List.eq_nil_or_concat' back with rfl | ⟨back, c, rfl⟩
  · obtain ⟨rfl, hlast⟩ := List.append_inj' hsplit rfl
    obtain rfl : a = b := by simpa using hlast
    exact ha
  · rw [← List.cons_append, ← List.append_assoc] at hsplit
    exact h front b back (List.append_inj' hsplit rfl).1

/-- Where there is a fault, there is a first one. -/
theorem exists_first_fault {as : List α} (h : ¬ NoFaultIn fault as) :
    ∃ front a back, as = front ++ a :: back ∧ NoFaultIn fault front ∧ fault front a := by
  induction as using List.reverseRecOn with
  | nil => exact absurd noFaultIn_nil h
  | append_singleton as last ih =>
    by_cases has : NoFaultIn fault as
    · refine ⟨as, last, [], rfl, has, by_contra fun hlast => h (has.concat hlast)⟩
    · obtain ⟨front, a, back, rfl, hfront, hfault⟩ := ih has
      exact ⟨front, a, back ++ [last], by simp, hfront, hfault⟩

end VisitorGen
