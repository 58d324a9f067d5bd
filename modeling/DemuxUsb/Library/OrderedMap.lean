import Mathlib.Data.List.Nodup
import DemuxUsb.Library.Maps

/-!
# Maps that keep the order of registration

An `OrderedMap` is a map together with the list of its keys in the order in which they
were registered. That the list has every key, once, is part of the type.

* `OrderedMap.register` adds an entry at the end unless the key has one;
* `OrderedMap.modify` changes an entry in place;
* `OrderedMap.order_register`: the order is that of the keys registered one after the
  other, without repetitions.
-/

structure OrderedMap (K V : Type) [Ord K] [Std.TransOrd K] [Std.LawfulEqOrd K] where
  entries : Std.ExtTreeMap K V := ∅
  order : List K := []
  nodup : order.Nodup := by exact List.nodup_nil
  mem_order : ∀ k, k ∈ order ↔ k ∈ entries := by simp

namespace OrderedMap

variable {K V : Type} [Ord K] [Std.TransOrd K] [Std.LawfulEqOrd K] (m : OrderedMap K V)

/-! ## Registration -/

/-- The map with an entry for `k`: the one it has, or else `v`. -/
def register (k : K) (v : V) : OrderedMap K V :=
  if hk : k ∈ m.entries then m
  else
    { entries := m.entries.insert k v
      order := m.order ++ [k]
      nodup := by
        rw [← m.mem_order] at hk
        exact List.nodup_append.mpr ⟨m.nodup, List.nodup_singleton k, by grind⟩
      mem_order := by
        intro a
        rw [List.mem_append, m.mem_order, List.mem_singleton, Std.ExtTreeMap.mem_insert,
          Std.compare_eq_iff_eq, or_comm, eq_comm] }

theorem getElem?_register_self (k : K) (v : V) :
    (m.register k v).entries[k]? = some (m.entries[k]?.getD v) := by
  unfold register
  split
  · rename_i hk
    rw [Std.ExtTreeMap.getElem?_eq_some_getElem hk, Option.getD_some]
  · rename_i hk
    rw [Std.ExtTreeMap.getElem?_insert_self, Std.ExtTreeMap.getElem?_eq_none hk,
      Option.getD_none]

theorem getElem?_register_ne {k a : K} (h : a ≠ k) (v : V) :
    (m.register k v).entries[a]? = m.entries[a]? := by
  unfold register
  split
  · rfl
  · exact Maps.getElem?_insert_ne h v

theorem register_of_mem {k : K} (h : k ∈ m.entries) (v : V) : m.register k v = m :=
  dif_pos h

/-- Only a key that has no entry changes the map. -/
theorem register_eq_self_iff (k : K) (v : V) : m.register k v = m ↔ k ∈ m.entries := by
  constructor
  · intro heq
    rw [← heq, Std.ExtTreeMap.mem_iff_isSome_getElem?, getElem?_register_self]
    rfl
  · intro hk
    exact m.register_of_mem hk v

theorem nodup_eraseDups [BEq K] [LawfulBEq K] : ∀ ks : List K, ks.eraseDups.Nodup
  | [] => List.nodup_nil
  | k :: ks => by
    rw [List.eraseDups_cons]
    refine List.nodup_cons.mpr ⟨?_, nodup_eraseDups _⟩
    rw [List.mem_eraseDups]
    simp
termination_by ks => ks.length
decreasing_by exact Nat.lt_succ_of_le (List.length_filter_le _ _)

/-- Registering a key twice is registering it once, in the order too. -/
theorem order_register [BEq K] [LawfulBEq K] {ks : List K} (h : m.order = ks.eraseDups) (k : K)
    (v : V) : (m.register k v).order = (ks ++ [k]).eraseDups := by
  rw [List.eraseDups_append, ← h]
  unfold register
  split
  · rename_i hk
    have hmem : k ∈ ks := by
      rw [← m.mem_order, h] at hk
      exact List.mem_eraseDups.mp hk
    simp [List.removeAll, hmem]
  · rename_i hk
    have hmem : k ∉ ks := by
      rw [← m.mem_order, h] at hk
      intro hks
      exact hk (List.mem_eraseDups.mpr hks)
    simp [List.removeAll, hmem, List.eraseDups_cons]

/-! ## Modification -/

/-- The map with the entry of `k` changed by `f`. -/
def modify (k : K) (f : V → V) : OrderedMap K V :=
  { m with
    entries := m.entries.modify k f
    mem_order := by
      intro a
      rw [m.mem_order, Std.ExtTreeMap.mem_modify] }

theorem getElem?_modify_self (k : K) (f : V → V) :
    (m.modify k f).entries[k]? = m.entries[k]?.map f :=
  Std.ExtTreeMap.getElem?_modify_self

theorem getElem?_modify_ne {k a : K} (h : a ≠ k) (f : V → V) :
    (m.modify k f).entries[a]? = m.entries[a]? := by
  refine Std.ExtTreeMap.getElem?_modify.trans (if_neg ?_)
  rw [Std.compare_eq_iff_eq]
  exact Ne.symm h

end OrderedMap
