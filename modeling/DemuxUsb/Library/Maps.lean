import Mathlib.Data.List.Basic
import Mathlib.Data.List.Induction
import Mathlib.Data.Set.List

/-!
# Tree maps

What an update of a map leaves alone.
-/

namespace Maps

variable {K V : Type} [Ord K] [Std.TransOrd K] [Std.LawfulEqOrd K] {m : Std.ExtTreeMap K V}

theorem getElem?_insert_ne {k a : K} (h : a ≠ k) (v : V) : (m.insert k v)[a]? = m[a]? := by
  rw [Std.ExtTreeMap.getElem?_insert, if_neg]
  rw [Std.compare_eq_iff_eq]
  exact Ne.symm h

/-- An entry that is there already. -/
theorem insert_eq_self {k : K} {v : V} (h : m[k]? = some v) : m.insert k v = m := by
  ext1 a
  by_cases ha : a = k
  · rw [ha, Std.ExtTreeMap.getElem?_insert_self, h]
  · rw [getElem?_insert_ne ha]

theorem getElem?_erase_ne {k a : K} (h : a ≠ k) : (m.erase k)[a]? = m[a]? := by
  rw [Std.ExtTreeMap.getElem?_erase, if_neg]
  rw [Std.compare_eq_iff_eq]
  exact Ne.symm h

/-- A map with a single entry. -/
theorem eq_insert_of_toList {k : K} {v : V} (h : m.toList = [(k, v)]) :
    m = (∅ : Std.ExtTreeMap K V).insert k v := by
  have hentry : ∀ a b, m[a]? = some b ↔ a = k ∧ b = v := by
    intro a b
    rw [← Std.ExtTreeMap.mem_toList_iff_getElem?_eq_some, h, List.mem_singleton, Prod.mk.injEq]
  ext1 a
  by_cases ha : a = k
  · rw [(hentry a v).mpr ⟨ha, rfl⟩, ha, Std.ExtTreeMap.getElem?_insert_self]
  · rw [getElem?_insert_ne ha, Std.ExtTreeMap.getElem?_empty]
    cases hb : m[a]? with
    | none => rfl
    | some b => exact absurd ((hentry a b).mp hb).1 ha

omit [Std.LawfulEqOrd K] in
theorem minEntry_insert_empty (k : K) (v : V) :
    Std.ExtTreeMap.minEntry? ((∅ : Std.ExtTreeMap K V).insert k v) = some (k, v) := by
  -- the tree with one node; the smallest entry is that of the node without a left subtree
  show Std.DTreeMap.Internal.Impl.Const.minEntry? (.inner 1 k v .leaf .leaf) = some (k, v)
  unfold Std.DTreeMap.Internal.Impl.Const.minEntry?
  rfl

omit [Std.LawfulEqOrd K] in
/-- The smallest entry is an entry. -/
theorem minEntry_mem {entry : K × V} (h : Std.ExtTreeMap.minEntry? m = some entry) :
    entry ∈ m.toList := by
  have htree : ∀ t : Std.DTreeMap.Internal.Impl K (fun _ => V),
      Std.DTreeMap.Internal.Impl.Const.minEntry? t = some entry →
        entry ∈ Std.DTreeMap.Internal.Impl.Const.toList t := by
    intro t ht
    rw [Std.DTreeMap.Internal.Impl.Const.toList_eq_toListModel_map]
    induction t with
    | leaf =>
      unfold Std.DTreeMap.Internal.Impl.Const.minEntry? at ht
      cases ht
    | inner size k v left right hleft hright =>
      unfold Std.DTreeMap.Internal.Impl.Const.minEntry? at ht
      rw [Std.DTreeMap.Internal.Impl.toListModel_inner, List.map_append]
      cases left with
      | leaf =>
        obtain rfl := Option.some.inj ht
        exact List.mem_append_right _ List.mem_cons_self
      | inner _ _ _ _ _ => exact List.mem_append_left _ (hleft ht)
  rcases m with ⟨⟨q⟩⟩
  induction q using Quotient.inductionOn with
  | h t => exact htree t.inner h

/-- Erasing what was just written. -/
theorem erase_insert {k : K} (h : m[k]? = none) (v : V) : (m.insert k v).erase k = m := by
  ext1 a
  by_cases hk : a = k
  · rw [hk, h]
    exact Std.ExtTreeMap.getElem?_erase_self
  · rw [getElem?_erase_ne hk, getElem?_insert_ne hk]

/-- The entries of a map, in the order of the keys, are the only list of them in that order. -/
theorem toList_eq {entries : List (K × V)}
    (hordered : entries.Pairwise fun a b => compare a.1 b.1 = .lt)
    (hentries : ∀ k v, (k, v) ∈ entries ↔ m[k]? = some v) : m.toList = entries := by
  have hirrefl : ∀ a : K × V, ¬ compare a.1 a.1 = .lt := by
    intro a h
    rw [Std.compare_self] at h
    cases h
  have hnodup : ∀ {l : List (K × V)}, l.Pairwise (fun a b => compare a.1 b.1 = .lt) → l.Nodup := by
    intro l hl
    apply hl.imp
    rintro a b hab rfl
    exact hirrefl a hab
  have hperm : m.toList.Perm entries := by
    apply (List.perm_ext_iff_of_nodup (hnodup Std.ExtTreeMap.ordered_keys_toList)
      (hnodup hordered)).mpr
    rintro ⟨k, v⟩
    rw [Std.ExtTreeMap.mem_toList_iff_getElem?_eq_some, hentries]
  apply hperm.eq_of_pairwise _ Std.ExtTreeMap.ordered_keys_toList hordered
  intro a b _ _ hab hba
  exact absurd (Std.TransCmp.lt_trans hab hba) (hirrefl a)

/-- A map that holds what some elements say, each under a key of its own, and nothing else: its
entries are those of the elements, in the order of their keys. -/
theorem exists_toList_eq_map {A : Type} {P : A → Prop} {key : A → K} {value : A → V}
    (hinj : ∀ a b, P a → P b → key a = key b → a = b) (hheld : ∀ a, P a → m[key a]? = some (value a))
    (honly : ∀ k ∈ m, ∃ a, P a ∧ k = key a) :
    ∃ l : List A, m.toList = l.map (fun a => (key a, value a)) ∧ (∀ a, a ∈ l ↔ P a) ∧
      l.Pairwise fun a b => compare (key a) (key b) = .lt := by
  have hentry : ∀ entry ∈ m.toList, ∃ a : {a // P a}, (key a, value a) = entry := by
    rintro ⟨k, v⟩ hmem
    rw [Std.ExtTreeMap.mem_toList_iff_getElem?_eq_some] at hmem
    obtain ⟨a, ha, rfl⟩ := honly k (Std.ExtTreeMap.mem_iff_isSome_getElem?.mpr (by simp [hmem]))
    rw [hheld a ha] at hmem
    exact ⟨⟨a, ha⟩, Prod.ext rfl (Option.some.inj hmem)⟩
  have hrange : m.toList ∈ Set.range (List.map fun a : {a // P a} => (key a, value a)) := by
    rw [Set.range_list_map]
    exact hentry
  obtain ⟨l, hl⟩ := hrange
  have hmap : m.toList = (l.map Subtype.val).map (fun a => (key a, value a)) := by
    rw [← hl, List.map_map]
    rfl
  refine ⟨l.map Subtype.val, hmap, ?_, ?_⟩
  · intro a
    constructor
    · intro ha
      obtain ⟨b, -, rfl⟩ := List.mem_map.mp ha
      exact b.2
    · intro ha
      have hmem := Std.ExtTreeMap.mem_toList_iff_getElem?_eq_some.mpr (hheld a ha)
      rw [hmap, List.mem_map] at hmem
      obtain ⟨b, hb, hkey⟩ := hmem
      have hP : P b := by
        obtain ⟨c, -, rfl⟩ := List.mem_map.mp hb
        exact c.2
      rwa [hinj b a hP ha (Prod.mk.inj hkey).1] at hb
  · have hordered : m.toList.Pairwise fun a b => compare a.1 b.1 = .lt :=
      Std.ExtTreeMap.ordered_keys_toList
    rw [hmap, List.pairwise_map] at hordered
    exact hordered

/-! ## Entries that are overwritten -/

section Last

variable [DecidableEq K]

/-- What was written last under a key. -/
def lastOf (k : K) (entries : List (K × V)) : Option V :=
  (entries.filter fun entry => entry.1 = k).getLast?.map Prod.snd

omit [Ord K] [Std.TransOrd K] [Std.LawfulEqOrd K] in
theorem lastOf_concat (k : K) (entries : List (K × V)) (entry : K × V) :
    lastOf k (entries ++ [entry]) = if entry.1 = k then some entry.2 else lastOf k entries := by
  unfold lastOf
  rw [List.filter_append, List.filter_singleton]
  by_cases hk : entry.1 = k
  · rw [if_pos hk, decide_eq_true hk, cond_true, List.getLast?_concat, Option.map_some]
  · rw [if_neg hk, decide_eq_false hk, cond_false, List.append_nil]

/-- A map that holds what was written last still does when one more entry is written. -/
theorem getElem?_insert_lastOf {entries : List (K × V)} (h : ∀ k, m[k]? = lastOf k entries)
    (entry : K × V) (k : K) : (m.insert entry.1 entry.2)[k]? = lastOf k (entries ++ [entry]) := by
  rw [lastOf_concat]
  by_cases hk : entry.1 = k
  · rw [if_pos hk, ← hk, Std.ExtTreeMap.getElem?_insert_self]
  · rw [if_neg hk, getElem?_insert_ne (Ne.symm hk), h]

/-- A map that is written entry by entry. -/
theorem getElem?_foldl_insert (entries : List (K × V)) (k : K) :
    (entries.foldl (fun m entry => m.insert entry.1 entry.2) (∅ : Std.ExtTreeMap K V))[k]? =
      lastOf k entries := by
  induction entries using List.reverseRecOn generalizing k with
  | nil => exact Std.ExtTreeMap.getElem?_empty
  | append_singleton entries entry ih =>
    rw [List.foldl_concat]
    exact getElem?_insert_lastOf ih entry k

omit [Ord K] [Std.TransOrd K] [Std.LawfulEqOrd K] in
theorem mem_of_lastOf {k : K} {v : V} {entries : List (K × V)} (h : lastOf k entries = some v) :
    (k, v) ∈ entries := by
  obtain ⟨⟨k', v'⟩, hlast, rfl⟩ := Option.map_eq_some_iff.mp h
  obtain ⟨hmem, hkey⟩ := List.mem_filter.mp (List.mem_of_getLast? hlast)
  obtain rfl := of_decide_eq_true hkey
  exact hmem

omit [Ord K] [Std.TransOrd K] [Std.LawfulEqOrd K] in
theorem lastOf_append (k : K) (entries more : List (K × V)) :
    lastOf k (entries ++ more) = (lastOf k more).or (lastOf k entries) := by
  unfold lastOf
  rw [List.filter_append, List.getLast?_append]
  cases (more.filter fun entry => entry.1 = k).getLast? <;> rfl

/-! ## Entries in groups -/

section Groups

variable {G L : Type} [DecidableEq L] {key : G → L → K}

/-- The entries of groups, under keys that say which group they are of. -/
def grouped (key : G → L → K) (entries : G → List (L × V)) (groups : List G) : List (K × V) :=
  groups.flatMap fun g => (entries g).map fun entry => (key g entry.1, entry.2)

omit [Ord K] [Std.TransOrd K] [Std.LawfulEqOrd K] [DecidableEq K] [DecidableEq L] in
theorem mem_grouped {entries : G → List (L × V)} {groups : List G} {k : K} {v : V} :
    (k, v) ∈ grouped key entries groups ↔ ∃ g ∈ groups, ∃ l, (l, v) ∈ entries g ∧ k = key g l := by
  unfold grouped
  rw [List.mem_flatMap]
  apply exists_congr
  intro g
  apply and_congr_right
  intro hg
  rw [List.mem_map]
  constructor
  · rintro ⟨⟨l, v'⟩, hentry, heq⟩
    obtain ⟨rfl, rfl⟩ := Prod.mk.inj heq
    exact ⟨l, hentry, rfl⟩
  · rintro ⟨l, hentry, rfl⟩
    exact ⟨(l, v), hentry, rfl⟩

omit [Ord K] [Std.TransOrd K] [Std.LawfulEqOrd K] in
/-- What was written last under a key was written by its own group. -/
theorem lastOf_grouped {entries : G → List (L × V)} {groups : List G} (hnodup : groups.Nodup)
    (hinj : ∀ g ∈ groups, ∀ g' ∈ groups, ∀ l l', key g l = key g' l' → g = g' ∧ l = l') {g : G}
    (hg : g ∈ groups) (l : L) : lastOf (key g l) (grouped key entries groups) = lastOf l (entries g) := by
  have hother : ∀ groups' : List G, groups' ⊆ groups → g ∉ groups' →
      lastOf (key g l) (grouped key entries groups') = none := by
    intro groups' hsub hnot
    rw [Option.eq_none_iff_forall_ne_some]
    intro v hv
    obtain ⟨g', hg', l', -, heq⟩ := mem_grouped.mp (mem_of_lastOf hv)
    obtain ⟨rfl, -⟩ := hinj g hg g' (hsub hg') l l' heq
    exact hnot hg'
  have hown : lastOf (key g l) ((entries g).map fun entry => (key g entry.1, entry.2)) =
      lastOf l (entries g) := by
    have hkey : ∀ entry : L × V, (key g entry.1 = key g l) = (entry.1 = l) := by
      intro entry
      apply propext
      exact ⟨fun h => (hinj g hg g hg _ _ h).2, fun h => by rw [h]⟩
    unfold lastOf
    rw [List.filter_map, List.getLast?_map, Option.map_map]
    simp only [Function.comp_def, hkey]
  obtain ⟨earlier, later, rfl⟩ := List.append_of_mem hg
  obtain ⟨-, hlater, hdisjoint⟩ := List.nodup_append.mp hnodup
  have hnotlater := (List.nodup_cons.mp hlater).1
  have hnotearlier : g ∉ earlier := fun h => hdisjoint g h g List.mem_cons_self rfl
  have hsplit : grouped key entries (earlier ++ g :: later) = grouped key entries earlier ++
      ((entries g).map (fun entry => (key g entry.1, entry.2)) ++ grouped key entries later) := by
    unfold grouped
    rw [List.flatMap_append, List.flatMap_cons]
  rw [hsplit, lastOf_append, lastOf_append, hown, hother later (by simp) hnotlater,
    hother earlier (by simp) hnotearlier, Option.none_or, Option.or_none]

end Groups

end Last

section Written

variable {A : Type} (key : A → K) (value : A → V)

theorem getElem?_written_of_notMem {entries : List A} {k : K} (h : k ∉ entries.map key) :
    (entries.foldl (fun m a => m.insert (key a) (value a)) m)[k]? = m[k]? := by
  induction entries generalizing m with
  | nil => rfl
  | cons a entries ih =>
    rw [List.map_cons, List.mem_cons, not_or] at h
    rw [List.foldl_cons, ih h.2, getElem?_insert_ne h.1]

/-- Entries that are written one by one are all found, if no key comes twice. -/
theorem getElem?_written {entries : List A} (h : (entries.map key).Nodup) {a : A}
    (ha : a ∈ entries) :
    (entries.foldl (fun m a => m.insert (key a) (value a)) m)[key a]? = some (value a) := by
  induction entries generalizing m with
  | nil => cases ha
  | cons b entries ih =>
    rw [List.map_cons, List.nodup_cons] at h
    rw [List.foldl_cons]
    rcases List.mem_cons.mp ha with rfl | ha
    · rw [getElem?_written_of_notMem key value h.1, Std.ExtTreeMap.getElem?_insert_self]
    · exact ih h.2 ha

end Written

end Maps
