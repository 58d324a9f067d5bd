import Mathlib.Data.List.Basic

/-!
# Isolation of the parts of a state

A state is seen part by part, through `view`, and every element of an input is owned by
some of the parts. The steps are `Confined` when an element changes only the parts that
own it, and those by what it finds there.

* `Confined.view_foldl`: after a run, a part is what its own elements make of it;
* `Confined.view_projection`: the elements of the others can be left out;
* `Confined.view_congr`: two runs in which a part finds the same elements in the same
  order leave it in the same state, whatever stands between them.
-/

namespace Isolation

variable {S P K V : Type}

structure Confined (step : S → P → S) (view : S → K → V) (owns : K → P → Bool)
    (update : K → V → P → V) : Prop where
  own : ∀ s p k, owns k p = true → view (step s p) k = update k (view s k) p
  other : ∀ s p k, owns k p = false → view (step s p) k = view s k

namespace Confined

variable {step : S → P → S} {view : S → K → V} {owns : K → P → Bool} {update : K → V → P → V}

theorem view_foldl (h : Confined step view owns update) (s : S) (ps : List P) (k : K) :
    view (ps.foldl step s) k = (ps.filter (owns k)).foldl (update k) (view s k) := by
  induction ps generalizing s with
  | nil => rfl
  | cons p ps ih =>
    rw [List.foldl_cons, ih, List.filter_cons]
    cases howns : owns k p with
    | true => rw [h.own s p k howns, if_pos rfl, List.foldl_cons]
    | false => rw [h.other s p k howns, if_neg Bool.false_ne_true]

/-- Two runs that agree on the elements of a part agree on the part. -/
theorem view_congr (h : Confined step view owns update) (s : S) {ps qs : List P} {k : K}
    (hproj : ps.filter (owns k) = qs.filter (owns k)) :
    view (ps.foldl step s) k = view (qs.foldl step s) k := by
  rw [h.view_foldl, h.view_foldl, hproj]

/-- A part is as after a run of its own elements. -/
theorem view_projection (h : Confined step view owns update) (s : S) (ps : List P) (k : K) :
    view (ps.foldl step s) k = view ((ps.filter (owns k)).foldl step s) k := by
  apply h.view_congr s
  rw [List.filter_filter]
  simp only [Bool.and_self]

end Confined

end Isolation
