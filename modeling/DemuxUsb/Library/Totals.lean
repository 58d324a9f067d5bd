import Mathlib.Algebra.BigOperators.Group.Finset.Basic
import Mathlib.Data.Finset.Dedup
import DemuxUsb.Library.Maps

/-!
# Totals

A measure summed over the values of a map or of a list, and what it becomes when one of
the values is replaced. The equations have the value that goes on the left, so that nothing
is subtracted.
-/

namespace Totals

open Std

section Map

variable {K V M : Type} [Ord K] [TransOrd K] [LawfulEqOrd K] [AddCommMonoid M]

/-- The sum over all entries. -/
def total (f : V → M) (m : ExtTreeMap K V) : M := (m.toList.map (fun entry => f entry.2)).sum

theorem nodup_toList (m : ExtTreeMap K V) : m.toList.Nodup := by
  refine m.distinct_keys_toList.imp ?_
  intro a b hkeys heq
  exact hkeys (heq ▸ compare_self)

/-- The entry that is written, and the others. -/
theorem toList_insert_perm (m : ExtTreeMap K V) (k : K) (v : V) :
    (m.insert k v).toList.Perm ((k, v) :: (m.erase k).toList) := by
  have hfresh : (k, v) ∉ (m.erase k).toList := by
    intro hmem
    rw [ExtTreeMap.mem_toList_iff_getElem?_eq_some, ExtTreeMap.getElem?_erase_self] at hmem
    exact Option.some_ne_none v hmem.symm
  apply (List.perm_ext_iff_of_nodup (nodup_toList _)
    (List.nodup_cons.mpr ⟨hfresh, nodup_toList _⟩)).mpr
  rintro ⟨a, b⟩
  rw [ExtTreeMap.mem_toList_iff_getElem?_eq_some, List.mem_cons,
    ExtTreeMap.mem_toList_iff_getElem?_eq_some, Prod.mk.injEq]
  by_cases ha : a = k
  · rw [ha, ExtTreeMap.getElem?_insert_self, ExtTreeMap.getElem?_erase_self]
    simp [eq_comm]
  · rw [Maps.getElem?_insert_ne ha, Maps.getElem?_erase_ne ha]
    simp [ha]

theorem total_insert_eq (f : V → M) (m : ExtTreeMap K V) (k : K) (v : V) :
    total f (m.insert k v) = f v + total f (m.erase k) := by
  have hperm := (toList_insert_perm m k v).map (fun entry => f entry.2)
  rw [total, hperm.sum_eq, List.map_cons, List.sum_cons]
  rfl

/-- Replacing an entry. -/
theorem total_insert_of_some (f : V → M) {m : ExtTreeMap K V} {k : K} {w : V}
    (h : m[k]? = some w) (v : V) : f w + total f (m.insert k v) = f v + total f m := by
  have hsame : m.insert k w = m := by
    ext1 a
    by_cases ha : a = k
    · rw [ha, ExtTreeMap.getElem?_insert_self, h]
    · rw [Maps.getElem?_insert_ne ha]
  have hold := total_insert_eq f m k w
  rw [hsame] at hold
  rw [hold, total_insert_eq, add_left_comm]

/-- A new entry. -/
theorem total_insert_of_none (f : V → M) {m : ExtTreeMap K V} {k : K} (h : m[k]? = none) (v : V) :
    total f (m.insert k v) = f v + total f m := by
  have hsame : m.erase k = m := by
    ext1 a
    by_cases ha : a = k
    · rw [ha, ExtTreeMap.getElem?_erase_self, h]
    · rw [Maps.getElem?_erase_ne ha]
  rw [total_insert_eq, hsame]

end Map

section List

variable {A M : Type} [AddCommMonoid M]

/-- One value is replaced. -/
theorem sum_modify (f : A → M) (g : A → A) {l : List A} {i : Nat} {a : A} (h : l[i]? = some a) :
    f a + ((l.modify i g).map f).sum = f (g a) + (l.map f).sum := by
  induction l generalizing i with
  | nil => cases h
  | cons b l ih =>
    cases i with
    | zero =>
      obtain rfl := Option.some.inj h
      rw [List.modify_zero_cons, List.map_cons, List.map_cons, List.sum_cons, List.sum_cons,
        add_left_comm]
    | succ i =>
      rw [List.modify_succ_cons, List.map_cons, List.map_cons, List.sum_cons, List.sum_cons,
        add_left_comm, ih h, add_left_comm]

/-- The parts of a list, one for each key, are the list in another order. -/
theorem perm_parts {K : Type} [DecidableEq K] (key : A → K) {ks : List K} (hnodup : ks.Nodup)
    {l : List A} (hkeys : ∀ a ∈ l, key a ∈ ks) :
    (ks.flatMap fun k => l.filter (key · = k)).Perm l := by
  induction ks generalizing l with
  | nil =>
    obtain rfl : l = [] := List.eq_nil_iff_forall_not_mem.mpr fun a ha => List.not_mem_nil (hkeys a ha)
    exact List.Perm.refl _
  | cons k ks ih =>
    obtain ⟨hk, hks⟩ := List.nodup_cons.mp hnodup
    have hrest : ∀ a ∈ l.filter (fun a => !decide (key a = k)), key a ∈ ks := by
      intro a ha
      obtain ⟨hmem, hne⟩ := List.mem_filter.mp ha
      exact (List.mem_cons.mp (hkeys a hmem)).resolve_left (by simpa using hne)
    have hparts : (ks.flatMap fun k' => l.filter (key · = k')) =
        ks.flatMap fun k' => (l.filter (fun a => !decide (key a = k))).filter (key · = k') := by
      apply List.flatMap_congr
      intro k' hk'
      rw [List.filter_filter]
      apply List.filter_congr
      intro a _
      have hne : k' ≠ k := fun heq => hk (heq ▸ hk')
      by_cases hkey : key a = k' <;> simp [hkey, hne]
    rw [List.flatMap_cons, hparts]
    exact ((ih hks hrest).append_left _).trans (List.filter_append_perm _ l)

/-- The sum over the places of a list, when the other places add nothing. -/
theorem sum_places (f : A → M) (l : List A) {places : List Nat} (hnodup : places.Nodup)
    (hplaces : ∀ n ∈ places, n < l.length)
    (hother : ∀ (n : Nat) (a : A), l[n]? = some a → n ∉ places → f a = 0) :
    (places.map fun n => (l[n]?.map f).getD 0).sum = (l.map f).sum := by
  have hrange : (List.range l.length).map (fun n => (l[n]?.map f).getD 0) = l.map f := by
    apply List.ext_getElem
    · simp
    · intro n hn hn'
      simp only [List.length_map, List.length_range] at hn
      simp [hn]
  have hsub : places.toFinset ⊆ (List.range l.length).toFinset := by
    intro n hn
    rw [List.mem_toFinset] at hn ⊢
    exact List.mem_range.mpr (hplaces n hn)
  rw [← hrange, ← List.sum_toFinset _ hnodup, ← List.sum_toFinset _ List.nodup_range]
  apply Finset.sum_subset hsub
  intro n hn hnot
  rw [List.mem_toFinset, List.mem_range] at hn
  rw [List.mem_toFinset] at hnot
  rw [List.getElem?_eq_getElem hn]
  exact hother n _ (List.getElem?_eq_getElem hn) hnot

end List

end Totals
