import Mathlib.Data.List.DropRight

/-!
# Items in their place

What an item of a sequence means may depend on the items before it, on those behind it, or
on both. `places` lists every item with both, so that such a meaning is a function of one
`Place` and the meaning of the sequence is a `map` or a `filterMap`.

`filterMap_places_concat` is the step of an induction from the left when the items behind do
not matter, `filterMap_places_cons` that of an induction from the right.
`splitOnP_eq_places` says what the pieces between separators are.
-/

namespace Places

variable {α β : Type}

/-- An item of a sequence with what is before and behind it. -/
structure Place (α : Type) where
  before : List α
  item : α
  after : List α

namespace Place

/-- The same item behind `xs`. -/
def shift (xs : List α) (p : Place α) : Place α := { p with before := xs ++ p.before }

/-- The same item with `ys` behind the sequence. -/
def extend (ys : List α) (p : Place α) : Place α := { p with after := p.after ++ ys }

end Place

/-- The places of a sequence, in order. -/
def places : List α → List (Place α)
  | [] => []
  | x :: xs => ⟨[], x, xs⟩ :: (places xs).map (Place.shift [x])

@[simp] theorem places_nil : places ([] : List α) = [] := rfl

theorem places_cons (x : α) (xs : List α) :
    places (x :: xs) = ⟨[], x, xs⟩ :: (places xs).map (Place.shift [x]) := rfl

/-- A place is a way to take the sequence apart. -/
theorem mem_places {p : Place α} {xs : List α} :
    p ∈ places xs ↔ xs = p.before ++ p.item :: p.after := by
  induction xs generalizing p with
  | nil =>
    refine iff_of_false List.not_mem_nil ?_
    intro h
    exact List.append_ne_nil_of_right_ne_nil _ (List.cons_ne_nil _ _) h.symm
  | cons x xs ih =>
    rw [places_cons, List.mem_cons, List.mem_map]
    constructor
    · rintro (rfl | ⟨q, hq, rfl⟩)
      · rfl
      · exact congrArg (x :: ·) (ih.mp hq)
    · intro h
      obtain ⟨before, item, after⟩ := p
      cases before with
      | nil =>
        obtain ⟨rfl, rfl⟩ := List.cons.inj h
        exact Or.inl rfl
      | cons y before =>
        obtain ⟨rfl, rfl⟩ := List.cons.inj h
        exact Or.inr ⟨⟨before, item, after⟩, ih.mpr rfl, rfl⟩

theorem places_append (xs ys : List α) :
    places (xs ++ ys) = (places xs).map (Place.extend ys) ++ (places ys).map (Place.shift xs) := by
  induction xs with
  | nil => exact (List.map_id _).symm
  | cons x xs ih =>
    rw [List.cons_append, places_cons, ih, places_cons, List.map_append, List.map_cons,
      List.map_map, List.map_map, List.map_map, List.cons_append]
    rfl

theorem places_concat (xs : List α) (x : α) :
    places (xs ++ [x]) = (places xs).map (Place.extend [x]) ++ [⟨xs, x, []⟩] := by
  rw [places_append]
  show _ ++ [Place.shift xs ⟨[], x, []⟩] = _
  rw [Place.shift, List.append_nil]

theorem filterMap_concat (f : α → Option β) (xs : List α) (x : α) :
    (xs ++ [x]).filterMap f = xs.filterMap f ++ (f x).toList := by
  rw [List.filterMap_append, List.filterMap_cons]
  cases f x <;> rfl

/-- A meaning that does not depend on the items behind. -/
theorem filterMap_places_concat {f : Place α → Option β}
    (hf : ∀ p ys, f (Place.extend ys p) = f p) (xs : List α) (x : α) :
    (places (xs ++ [x])).filterMap f = (places xs).filterMap f ++ (f ⟨xs, x, []⟩).toList := by
  have hfun : f ∘ Place.extend [x] = f := funext fun p => hf p [x]
  rw [places_concat, List.filterMap_append, List.filterMap_map, hfun, List.filterMap_cons]
  cases f ⟨xs, x, []⟩ <;> rfl

/-- A meaning of several parts that does not depend on the items behind. -/
theorem flatMap_places_concat {f : Place α → List β} (hf : ∀ p ys, f (Place.extend ys p) = f p)
    (xs : List α) (x : α) :
    (places (xs ++ [x])).flatMap f = (places xs).flatMap f ++ f ⟨xs, x, []⟩ := by
  rw [places_concat, List.flatMap_append, List.flatMap_map, List.flatMap_singleton]
  apply congrArg (· ++ f ⟨xs, x, []⟩)
  exact List.flatMap_congr fun p _ => hf p [x]

/-- A sequence as its first item and the rest behind it, where `g` is the meaning that knows
of the first item. -/
theorem filterMap_places_cons {f g : Place α → Option β} {x : α}
    (hf : ∀ p, f (Place.shift [x] p) = g p) (xs : List α) :
    (places (x :: xs)).filterMap f = (f ⟨[], x, xs⟩).toList ++ (places xs).filterMap g := by
  have hfun : f ∘ Place.shift [x] = g := funext hf
  rw [places_cons, List.filterMap_cons, List.filterMap_map, hfun]
  cases f ⟨[], x, xs⟩ <;> rfl

/-- Two meanings that leave out the same places. -/
theorem filterMap_eq_filterMap_iff {f g : α → Option β} {xs : List α}
    (h : ∀ x ∈ xs, (f x).isSome = (g x).isSome) :
    xs.filterMap f = xs.filterMap g ↔ ∀ x ∈ xs, f x = g x := by
  refine ⟨?_, List.filterMap_congr⟩
  induction xs with
  | nil => exact fun _ => List.forall_mem_nil _
  | cons x xs ih =>
    obtain ⟨hx, hxs⟩ := List.forall_mem_cons.mp h
    intro heq
    rw [List.filterMap_cons, List.filterMap_cons] at heq
    cases hf : f x with
    | none =>
      have hg : g x = none := by
        rw [← Option.not_isSome_iff_eq_none, ← hx, hf]
        exact Bool.false_ne_true
      rw [hf, hg] at heq
      exact List.forall_mem_cons.mpr ⟨hf.trans hg.symm, ih hxs heq⟩
    | some y =>
      obtain ⟨z, hg⟩ := Option.isSome_iff_exists.mp (hx.symm.trans (Option.isSome_iff_exists.mpr ⟨y, hf⟩))
      rw [hf, hg] at heq
      obtain ⟨rfl, htail⟩ := List.cons.inj heq
      exact List.forall_mem_cons.mpr ⟨hf.trans hg.symm, ih hxs htail⟩

/-! ## Pieces -/

section Pieces

variable (p : α → Bool)

/-- What a separator ends: the items since the separator before it. -/
def ended (q : Place α) : Option (List α) :=
  if p q.item then some (q.before.rtakeWhile (fun x => !p x)) else none

theorem splitOnP_concat_of_not {x : α} (hx : p x = false) (xs : List α) :
    ∃ pieces last, xs.splitOnP p = pieces ++ [last] ∧
      (xs ++ [x]).splitOnP p = pieces ++ [last ++ [x]] := by
  induction xs with
  | nil => exact ⟨[], [], rfl, by rw [List.nil_append, List.splitOnP_cons_eq_if_modifyHead, hx]; rfl⟩
  | cons y ys ih =>
    obtain ⟨pieces, last, hys, hxs⟩ := ih
    rw [List.cons_append, List.splitOnP_cons_eq_if_modifyHead,
      List.splitOnP_cons_eq_if_modifyHead, hys, hxs]
    split
    · exact ⟨[] :: pieces, last, rfl, rfl⟩
    · cases pieces with
      | nil => exact ⟨[], y :: last, rfl, rfl⟩
      | cons piece pieces => exact ⟨(y :: piece) :: pieces, last, rfl, rfl⟩

/-- The pieces of a sequence are what its separators end, and the rest. -/
theorem splitOnP_eq_places (xs : List α) :
    xs.splitOnP p = (places xs).filterMap (ended p) ++ [xs.rtakeWhile (fun x => !p x)] := by
  have hf : ∀ q ys, ended p (Place.extend ys q) = ended p q := fun _ _ => rfl
  induction xs using List.reverseRecOn with
  | nil => rfl
  | append_singleton xs x ih =>
    rw [filterMap_places_concat hf]
    by_cases hx : p x = true
    · have hnot : ¬ (!p x) = true := by simp [hx]
      rw [List.splitOnP_append_cons xs [] hx, List.splitOnP_nil, ih,
        List.rtakeWhile_concat_neg (fun x => !p x) xs x hnot]
      simp [ended, hx]
    · rw [Bool.not_eq_true] at hx
      obtain ⟨pieces, last, hpieces, hconcat⟩ := splitOnP_concat_of_not p hx xs
      have hnot : (!p x) = true := by simp [hx]
      rw [hpieces] at ih
      obtain ⟨rfl, hlast⟩ := List.append_inj' ih rfl
      rw [hconcat, List.rtakeWhile_concat_pos (fun x => !p x) xs x hnot,
        List.singleton_inj.mp hlast]
      simp [ended, hx]

end Pieces

end Places
