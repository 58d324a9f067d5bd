import Mathlib.Data.List.Induction
import Mathlib.Logic.Function.Basic
import DemuxUsb.Library.Maps
import DemuxUsb.File.TransferPairing

/-!
# Where payloads come from

`TracedTransfers` runs the six calls on bytes that carry the call that gave them, and
`Erases` says that `Transfers` is what remains when the origins are forgotten. On it the
origin of a payload can be stated.

* `erases_run`: every sequence of calls hands on the same bytes, traced or not.
* `payload_origins`: what a control transfer hands on was given to that transfer. What a
  bulk OUT transfer hands on can be bytes of a control transfer, and the theorem says for
  which sequences it never is.
-/

namespace DemuxUsb

/-! ## Bytes with their origin -/

/-- The payload of a call. -/
def Call.data : Call → Bytes
  | .beginControl _ _ _ data => data
  | .appendControl _ _ data => data
  | .endControl _ _ data => data
  | .beginBulk _ _ data => data
  | .endBulk _ _ data => data
  | .abort _ _ => []

structure Given where
  byte : UInt8
  giver : Call
  deriving DecidableEq

/-- The payload of a call, given by it. -/
def Call.given (c : Call) : List Given := c.data.map fun byte => ⟨byte, c⟩

/-- The bytes alone. -/
def bytesOf (data : List Given) : Bytes := data.map Given.byte

@[simp]
theorem bytesOf_append (data data' : List Given) :
    bytesOf (data ++ data') = bytesOf data ++ bytesOf data' := List.map_append

@[simp]
theorem bytesOf_take (data : List Given) (n : Nat) : bytesOf (data.take n) = (bytesOf data).take n :=
  List.map_take

@[simp]
theorem bytesOf_eq_nil {data : List Given} : bytesOf data = [] ↔ data = [] := List.map_eq_nil_iff

@[simp]
theorem length_bytesOf (data : List Given) : (bytesOf data).length = data.length := List.length_map _

@[simp]
theorem Call.bytesOf_given (c : Call) : bytesOf c.given = c.data := by
  unfold bytesOf given
  rw [List.map_map]
  exact List.map_id _

theorem Call.mem_given {c : Call} {g : Given} (hg : g ∈ c.given) :
    g.giver = c ∧ g.byte ∈ g.giver.data := by
  obtain ⟨byte, hbyte, rfl⟩ := List.mem_map.mp hg
  exact ⟨rfl, hbyte⟩

/-! ## The traced transfers -/

structure TracedPending where
  control : Bool := false
  setup : UsbSetup := default
  data : List Given := []

/-- The entries of `m_inflight`. -/
abbrev TracedTransfers := TransferKey → Option TracedPending

inductive TracedDispatch where
  | control (endpoint : UInt8) (setup : UsbSetup) (data : List Given)
  | bulkIn (endpoint : UInt8) (data : List Given)
  | bulkOut (endpoint : UInt8) (data : List Given)

namespace TracedTransfers

def controlPayload (pending : TracedPending) (data : List Given) : List Given :=
  let payload :=
    if pending.setup.isIn then
      if data.length = 0 ∧ pending.data ≠ [] then pending.data else data
    else if pending.data ≠ [] then pending.data else data
  payload.take pending.setup.wLength.toNat

/-- `appendControl` of the entry under `key`. -/
def append (t : TracedTransfers) (key : TransferKey) (data : List Given) : TracedTransfers :=
  match t key with
  | none => t
  | some pending =>
    Function.update t key (some { pending with data := pending.data ++ data })

def endControl (t : TracedTransfers) (endpoint : UInt8) (id : UInt64) (data : List Given) :
    TracedTransfers × Option TracedDispatch :=
  match t (usbEndpointId endpoint, id) with
  | none => (t, none)
  | some pending =>
    if pending.control = false then (t, none)
    else
      (Function.update t (usbEndpointId endpoint, id) none,
        some (.control (usbEndpointId endpoint) pending.setup (controlPayload pending data)))

def endBulk (t : TracedTransfers) (endpoint : UInt8) (id : UInt64) (data : List Given) :
    TracedTransfers × Option TracedDispatch :=
  let pending := (t (endpoint, id)).getD {}
  let t := Function.update t (endpoint, id) none
  if usbEndpointIn endpoint then (t, some (.bulkIn (usbEndpointId endpoint) data))
  else
    let payload := if data.length = 0 ∧ pending.data ≠ [] then pending.data else data
    (t, some (.bulkOut (usbEndpointId endpoint) payload))

/-- `Transfers.call`, with the bytes of the call given by it. -/
def call (t : TracedTransfers) (c : Call) : TracedTransfers × Option TracedDispatch :=
  match c with
  | .beginControl endpoint id setup _ =>
    (Function.update t (usbEndpointId endpoint, id) (some ⟨true, setup, c.given⟩), none)
  | .appendControl endpoint id _ => (t.append (usbEndpointId endpoint, id) c.given, none)
  | .endControl endpoint id _ => t.endControl endpoint id c.given
  | .beginBulk endpoint id _ =>
    (Function.update t (endpoint, id)
      (some { data := if usbEndpointOut endpoint then c.given else [] }), none)
  | .endBulk endpoint id _ => t.endBulk endpoint id c.given
  | .abort endpoint id =>
    (Function.update (Function.update t (endpoint, id) none) (usbEndpointId endpoint, id) none,
      none)

/-- The transfers in flight after a sequence of calls on a fresh handle. -/
def after (calls : List Call) : TracedTransfers :=
  calls.foldl (fun t c => (t.call c).1) fun _ => none

theorem after_concat (calls : List Call) (c : Call) :
    after (calls ++ [c]) = ((after calls).call c).1 := by
  unfold after
  rw [List.foldl_concat]

end TracedTransfers

/-! ## Forgetting the origins -/

def TracedPending.erase (pending : TracedPending) : Pending :=
  ⟨pending.control, pending.setup, bytesOf pending.data⟩

def TracedDispatch.erase : TracedDispatch → Dispatch
  | .control endpoint setup data => .control endpoint setup (bytesOf data)
  | .bulkIn endpoint data => .bulkIn endpoint (bytesOf data)
  | .bulkOut endpoint data => .bulkOut endpoint (bytesOf data)

/-- The same entries, but for the origins of their bytes. -/
def Erases (t : TracedTransfers) (s : Transfers) : Prop :=
  ∀ key : TransferKey, s.inflight[key]? = (t key).map TracedPending.erase

section Erasure

variable {t : TracedTransfers} {s : Transfers}

theorem Erases.insert (herases : Erases t s) (key : TransferKey) (pending : TracedPending) :
    Erases (Function.update t key (some pending))
      { s with inflight := s.inflight.insert key pending.erase } := by
  intro key'
  by_cases hkey : key' = key
  · subst hkey
    rw [Function.update_self, Std.ExtTreeMap.getElem?_insert_self]
    rfl
  · rw [Function.update_of_ne hkey, Maps.getElem?_insert_ne hkey]
    exact herases key'

theorem Erases.erase (herases : Erases t s) (key : TransferKey) :
    Erases (Function.update t key none) { s with inflight := s.inflight.erase key } := by
  intro key'
  by_cases hkey : key' = key
  · subst hkey
    rw [Function.update_self, Std.ExtTreeMap.getElem?_erase_self]
    rfl
  · rw [Function.update_of_ne hkey, Maps.getElem?_erase_ne hkey]
    exact herases key'

/-- An entry that is not there is erased without effect. -/
theorem Erases.erase_none (herases : Erases t s) {key : TransferKey} (hnone : t key = none) :
    Erases (Function.update t key none) s := by
  rw [← hnone, Function.update_eq_self]
  exact herases

theorem erase_controlPayload (pending : TracedPending) (data : List Given) :
    Transfers.controlPayload pending.erase (bytesOf data) =
      bytesOf (TracedTransfers.controlPayload pending data) := by
  simp only [Transfers.controlPayload, TracedTransfers.controlPayload, TracedPending.erase,
    length_bytesOf, ne_eq, bytesOf_eq_nil, bytesOf_take]
  split <;> split <;> rfl

theorem Erases.endControl (herases : Erases t s) (endpoint : UInt8) (id : UInt64)
    (data : List Given) :
    Erases (t.endControl endpoint id data).1 (s.endControl endpoint id (bytesOf data)).1 ∧
      (s.endControl endpoint id (bytesOf data)).2 =
        (t.endControl endpoint id data).2.map TracedDispatch.erase := by
  simp only [TracedTransfers.endControl, Transfers.endControl,
    herases (usbEndpointId endpoint, id)]
  cases hentry : t (usbEndpointId endpoint, id) with
  | none => exact ⟨herases, rfl⟩
  | some pending =>
    rw [Option.map_some]
    dsimp only
    by_cases hcontrol : pending.control = false
    · rw [if_pos hcontrol, if_pos (show pending.erase.control = false from hcontrol)]
      exact ⟨herases, rfl⟩
    · rw [if_neg hcontrol, if_neg (show ¬pending.erase.control = false from hcontrol)]
      refine ⟨herases.erase _, ?_⟩
      rw [Option.map_some, TracedDispatch.erase, ← erase_controlPayload]
      rfl

theorem Erases.endBulk (herases : Erases t s) (endpoint : UInt8) (id : UInt64)
    (data : List Given) :
    Erases (t.endBulk endpoint id data).1 (s.endBulk endpoint id (bytesOf data)).1 ∧
      (s.endBulk endpoint id (bytesOf data)).2 =
        (t.endBulk endpoint id data).2.map TracedDispatch.erase := by
  simp only [TracedTransfers.endBulk, Transfers.endBulk, herases (endpoint, id)]
  cases hentry : t (endpoint, id) with
  | none =>
    have hrest := herases.erase_none hentry
    cases hin : usbEndpointIn endpoint
    · refine ⟨hrest, ?_⟩
      simp [TracedDispatch.erase]
    · exact ⟨hrest, rfl⟩
  | some pending =>
    have hrest := herases.erase (endpoint, id)
    cases hin : usbEndpointIn endpoint
    · refine ⟨hrest, ?_⟩
      simp only [Option.map_some, Option.getD_some, TracedPending.erase, TracedDispatch.erase,
        ne_eq, bytesOf_eq_nil, length_bytesOf, apply_ite bytesOf, Bool.false_eq_true, if_false]
    · exact ⟨hrest, rfl⟩

/-- **Step lemma.** One call, traced or not, hands on the same bytes. -/
theorem Erases.call (herases : Erases t s) (c : Call) :
    Erases (t.call c).1 (s.call c).1 ∧ (s.call c).2 = (t.call c).2.map TracedDispatch.erase := by
  cases c with
  | beginControl endpoint id setup data =>
    refine ⟨?_, rfl⟩
    have hinsert := herases.insert (usbEndpointId endpoint, id)
      ⟨true, setup, (Call.beginControl endpoint id setup data).given⟩
    rw [TracedPending.erase, Call.bytesOf_given] at hinsert
    exact hinsert
  | appendControl endpoint id data =>
    refine ⟨?_, rfl⟩
    simp only [TracedTransfers.call, TracedTransfers.append, Transfers.call,
      Transfers.appendControl, herases (usbEndpointId endpoint, id)]
    cases hentry : t (usbEndpointId endpoint, id) with
    | none => exact herases
    | some pending =>
      have hinsert := herases.insert (usbEndpointId endpoint, id)
        { pending with data := pending.data ++ (Call.appendControl endpoint id data).given }
      rw [TracedPending.erase, bytesOf_append, Call.bytesOf_given] at hinsert
      exact hinsert
  | endControl endpoint id data =>
    have hend := herases.endControl endpoint id (Call.endControl endpoint id data).given
    rw [Call.bytesOf_given] at hend
    exact hend
  | beginBulk endpoint id data =>
    refine ⟨?_, rfl⟩
    have hinsert := herases.insert (endpoint, id)
      { data := if usbEndpointOut endpoint then (Call.beginBulk endpoint id data).given else [] }
    rw [TracedPending.erase, apply_ite bytesOf, Call.bytesOf_given] at hinsert
    exact hinsert
  | endBulk endpoint id data =>
    have hend := herases.endBulk endpoint id (Call.endBulk endpoint id data).given
    rw [Call.bytesOf_given] at hend
    exact hend
  | abort endpoint id =>
    exact ⟨(herases.erase (endpoint, id)).erase (usbEndpointId endpoint, id), rfl⟩

/-- **Run lemma.** -/
theorem erases_run (calls : List Call) :
    Erases (TracedTransfers.after calls) (({} : Transfers).run calls).1 := by
  induction calls using List.reverseRecOn with
  | nil =>
    intro key
    exact Std.ExtTreeMap.getElem?_empty
  | append_singleton calls c ih =>
    rw [TracedTransfers.after_concat, Transfers.run_append]
    exact (ih.call c).1

end Erasure

/-! ## The calls an entry holds -/

/-- The call starts a control transfer or adds to one. -/
def Call.ofControl : Call → Bool
  | .beginControl .. => true
  | .appendControl .. => true
  | _ => false

/-- The key a call writes its payload under, if it writes any. -/
def Call.writes : Call → Option TransferKey
  | .beginControl endpoint id _ _ => some (usbEndpointId endpoint, id)
  | .appendControl endpoint id _ => some (usbEndpointId endpoint, id)
  | .beginBulk endpoint id _ => some (endpoint, id)
  | _ => none

/-- The calls that made the entry under `key`, the one that began it first, after `c`. -/
def heldAfter (key : TransferKey) (calls : List Call) (c : Call) : List Call :=
  match c with
  | .beginControl endpoint id _ _ => if key = (usbEndpointId endpoint, id) then [c] else calls
  | .appendControl endpoint id _ =>
    if key = (usbEndpointId endpoint, id) ∧ calls ≠ [] then calls ++ [c] else calls
  | .endControl endpoint id _ =>
    -- an entry that a bulk transfer began is left alone
    if key = (usbEndpointId endpoint, id) ∧ calls.head?.any Call.ofControl then [] else calls
  | .beginBulk endpoint id _ => if key = (endpoint, id) then [c] else calls
  | .endBulk endpoint id _ => if key = (endpoint, id) then [] else calls
  | .abort endpoint id =>
    if key = (usbEndpointId endpoint, id) ∨ key = (endpoint, id) then [] else calls

/-- The calls whose payloads are in the entry under `key` after a sequence of calls on a
fresh handle. -/
def held (key : TransferKey) (calls : List Call) : List Call :=
  calls.foldl (heldAfter key) []

theorem held_concat (key : TransferKey) (calls : List Call) (c : Call) :
    held key (calls ++ [c]) = heldAfter key (held key calls) c := by
  unfold held
  rw [List.foldl_concat]

/-- What one call can do to the calls an entry holds. -/
theorem heldAfter_cases (key : TransferKey) (calls : List Call) (c : Call) :
    heldAfter key calls c = calls ∨ heldAfter key calls c = [] ∨
      (c.writes = some key ∧ (heldAfter key calls c = [c] ∨
        (c.ofControl = true ∧ calls ≠ [] ∧ heldAfter key calls c = calls ++ [c]))) := by
  cases c with
  | beginControl endpoint id setup data =>
    by_cases hkey : key = (usbEndpointId endpoint, id)
    · exact Or.inr (Or.inr ⟨congrArg some hkey.symm, Or.inl (if_pos hkey)⟩)
    · exact Or.inl (if_neg hkey)
  | appendControl endpoint id data =>
    by_cases hkey : key = (usbEndpointId endpoint, id) ∧ calls ≠ []
    · exact Or.inr (Or.inr ⟨congrArg some hkey.1.symm, Or.inr ⟨rfl, hkey.2, if_pos hkey⟩⟩)
    · exact Or.inl (if_neg hkey)
  | endControl endpoint id data =>
    by_cases hkey : key = (usbEndpointId endpoint, id) ∧ calls.head?.any Call.ofControl
    · exact Or.inr (Or.inl (if_pos hkey))
    · exact Or.inl (if_neg hkey)
  | beginBulk endpoint id data =>
    by_cases hkey : key = (endpoint, id)
    · exact Or.inr (Or.inr ⟨congrArg some hkey.symm, Or.inl (if_pos hkey)⟩)
    · exact Or.inl (if_neg hkey)
  | endBulk endpoint id data =>
    by_cases hkey : key = (endpoint, id)
    · exact Or.inr (Or.inl (if_pos hkey))
    · exact Or.inl (if_neg hkey)
  | abort endpoint id =>
    by_cases hkey : key = (usbEndpointId endpoint, id) ∨ key = (endpoint, id)
    · exact Or.inr (Or.inl (if_pos hkey))
    · exact Or.inl (if_neg hkey)

/-- An entry holds calls of the sequence that write under its key, and all but the first
belong to control transfers. -/
theorem held_calls (key : TransferKey) (calls : List Call) :
    (∀ c ∈ held key calls, c ∈ calls ∧ c.writes = some key) ∧
      ∀ c ∈ (held key calls).tail, c.ofControl = true := by
  induction calls using List.reverseRecOn with
  | nil => exact ⟨fun c hc => absurd hc List.not_mem_nil, fun c hc => absurd hc List.not_mem_nil⟩
  | append_singleton calls c ih =>
    obtain ⟨hmem, htail⟩ := ih
    have hmore : ∀ c' ∈ held key calls, c' ∈ calls ++ [c] ∧ c'.writes = some key :=
      fun c' hc' => ⟨List.mem_append_left _ (hmem c' hc').1, (hmem c' hc').2⟩
    rw [held_concat]
    rcases heldAfter_cases key (held key calls) c with hsame | hnil | ⟨hwrites, hone | happend⟩
    · rw [hsame]
      exact ⟨hmore, htail⟩
    · rw [hnil]
      exact ⟨fun c' hc' => absurd hc' List.not_mem_nil, fun c' hc' => absurd hc' List.not_mem_nil⟩
    · rw [hone]
      refine ⟨?_, fun c' hc' => absurd hc' List.not_mem_nil⟩
      intro c' hc'
      obtain rfl := List.mem_singleton.mp hc'
      exact ⟨List.mem_append_right _ List.mem_cons_self, hwrites⟩
    · obtain ⟨hcontrol, hne, heq⟩ := happend
      rw [heq]
      constructor
      · intro c' hc'
        rcases List.mem_append.mp hc' with hold | hnew
        · exact hmore c' hold
        · obtain rfl := List.mem_singleton.mp hnew
          exact ⟨List.mem_append_right _ List.mem_cons_self, hwrites⟩
      · intro c' hc'
        rw [List.tail_append_of_ne_nil hne] at hc'
        rcases List.mem_append.mp hc' with hold | hnew
        · exact htail c' hold
        · obtain rfl := List.mem_singleton.mp hnew
          exact hcontrol

/-- What an entry keeps of a call's payload: a bulk IN transfer has none to keep. -/
def Call.kept (c : Call) : List Given :=
  match c with
  | .beginBulk endpoint _ _ => if usbEndpointOut endpoint then c.given else []
  | _ => c.given

theorem Call.mem_given_of_mem_kept {c : Call} {g : Given} (hg : g ∈ c.kept) : g ∈ c.given := by
  cases c with
  | beginBulk endpoint id data =>
    unfold kept at hg
    dsimp only at hg
    split at hg
    · exact hg
    · exact absurd hg List.not_mem_nil
  | _ => exact hg

def Call.setup : Call → UsbSetup
  | .beginControl _ _ setup _ => setup
  | _ => default

/-- The entry that these calls make. -/
def entryOf (calls : List Call) : Option TracedPending :=
  calls.head?.map fun first => ⟨first.ofControl, first.setup, calls.flatMap Call.kept⟩

theorem entryOf_singleton (c : Call) : entryOf [c] = some ⟨c.ofControl, c.setup, c.kept⟩ := by
  unfold entryOf
  rw [List.flatMap_singleton]
  rfl

theorem entryOf_append {calls : List Call} {pending : TracedPending}
    (hentry : entryOf calls = some pending) (c : Call) :
    entryOf (calls ++ [c]) = some { pending with data := pending.data ++ c.kept } := by
  cases calls with
  | nil => cases hentry
  | cons first rest =>
    obtain rfl := Option.some.inj hentry
    unfold entryOf
    rw [List.flatMap_append, List.flatMap_singleton]
    rfl

theorem entryOf_eq_none {calls : List Call} : entryOf calls = none ↔ calls = [] := by
  cases calls with
  | nil => exact ⟨fun _ => rfl, fun _ => rfl⟩
  | cons first rest =>
    exact ⟨fun h => (Option.some_ne_none _ h).elim, fun h => (List.cons_ne_nil _ _ h).elim⟩

theorem control_of_entryOf {calls : List Call} {pending : TracedPending}
    (hentry : entryOf calls = some pending) :
    calls.head?.any Call.ofControl = pending.control := by
  cases calls with
  | nil => cases hentry
  | cons first rest =>
    obtain rfl := Option.some.inj hentry
    rfl

theorem data_of_entryOf {calls : List Call} {pending : TracedPending}
    (hentry : entryOf calls = some pending) : pending.data = calls.flatMap Call.kept := by
  cases calls with
  | nil => cases hentry
  | cons first rest =>
    obtain rfl := Option.some.inj hentry
    rfl

section Entries

variable {t : TracedTransfers} {key : TransferKey} {calls : List Call}

theorem appendControl_entryOf (hentry : t key = entryOf calls) (endpoint : UInt8) (id : UInt64)
    (data : Bytes) :
    (t.call (.appendControl endpoint id data)).1 key =
      entryOf (heldAfter key calls (.appendControl endpoint id data)) := by
  simp only [TracedTransfers.call, TracedTransfers.append, heldAfter]
  by_cases hkey : key = (usbEndpointId endpoint, id)
  · rw [← hkey, hentry]
    cases hpending : entryOf calls with
    | none =>
      rw [if_neg fun h => h.2 (entryOf_eq_none.mp hpending), hpending]
      exact hentry.trans hpending
    | some pending =>
      have hne : calls ≠ [] := by
        intro hnil
        rw [entryOf_eq_none.mpr hnil] at hpending
        cases hpending
      dsimp only
      rw [if_pos ⟨rfl, hne⟩, entryOf_append hpending, Function.update_self]
      rfl
  · rw [if_neg fun h => hkey h.1, ← hentry]
    cases t (usbEndpointId endpoint, id) with
    | none => rfl
    | some pending => exact Function.update_of_ne hkey _ _

theorem endControl_entryOf (hentry : t key = entryOf calls) (endpoint : UInt8) (id : UInt64)
    (data : Bytes) :
    (t.call (.endControl endpoint id data)).1 key =
      entryOf (heldAfter key calls (.endControl endpoint id data)) := by
  simp only [TracedTransfers.call, TracedTransfers.endControl, heldAfter]
  by_cases hkey : key = (usbEndpointId endpoint, id)
  · rw [← hkey, hentry]
    cases hpending : entryOf calls with
    | none =>
      rw [entryOf_eq_none.mp hpending] at hentry ⊢
      rw [if_neg fun h => Bool.false_ne_true h.2]
      exact hentry
    | some pending =>
      rw [control_of_entryOf hpending]
      dsimp only
      by_cases hcontrol : pending.control = false
      · rw [if_pos hcontrol, if_neg fun h => Bool.false_ne_true (hcontrol.symm.trans h.2),
          hpending]
        exact hentry.trans hpending
      · rw [if_neg hcontrol, if_pos ⟨rfl, eq_true_of_ne_false hcontrol⟩]
        exact Function.update_self _ _ _
  · rw [if_neg fun h => hkey h.1, ← hentry]
    cases t (usbEndpointId endpoint, id) with
    | none => rfl
    | some pending =>
      dsimp only
      split
      · rfl
      · exact Function.update_of_ne hkey _ _

/-- **Step lemma.** -/
theorem call_entryOf (hentry : t key = entryOf calls) (c : Call) :
    (t.call c).1 key = entryOf (heldAfter key calls c) := by
  cases c with
  | beginControl endpoint id setup data =>
    simp only [TracedTransfers.call, heldAfter, Function.update_apply]
    by_cases hkey : key = (usbEndpointId endpoint, id)
    · rw [if_pos hkey, if_pos hkey, entryOf_singleton]
      rfl
    · rw [if_neg hkey, if_neg hkey, hentry]
  | appendControl endpoint id data => exact appendControl_entryOf hentry endpoint id data
  | endControl endpoint id data => exact endControl_entryOf hentry endpoint id data
  | beginBulk endpoint id data =>
    simp only [TracedTransfers.call, heldAfter, Function.update_apply]
    by_cases hkey : key = (endpoint, id)
    · rw [if_pos hkey, if_pos hkey, entryOf_singleton]
      rfl
    · rw [if_neg hkey, if_neg hkey, hentry]
  | endBulk endpoint id data =>
    have hupdate : Function.update t (endpoint, id) none key =
        entryOf (if key = (endpoint, id) then [] else calls) := by
      rw [Function.update_apply, apply_ite entryOf, hentry]
      rfl
    simp only [TracedTransfers.call, TracedTransfers.endBulk, heldAfter]
    split
    · exact hupdate
    · exact hupdate
  | abort endpoint id =>
    simp only [TracedTransfers.call, heldAfter, Function.update_apply]
    by_cases hnumber : key = (usbEndpointId endpoint, id)
    · rw [if_pos hnumber, if_pos (Or.inl hnumber)]
      rfl
    · by_cases haddress : key = (endpoint, id)
      · rw [if_neg hnumber, if_pos haddress, if_pos (Or.inr haddress)]
        rfl
      · rw [if_neg hnumber, if_neg haddress, if_neg (not_or.mpr ⟨hnumber, haddress⟩), hentry]

end Entries

/-- **Run lemma.** Every entry is made by the calls it holds. -/
theorem after_entryOf (calls : List Call) (key : TransferKey) :
    TracedTransfers.after calls key = entryOf (held key calls) := by
  induction calls using List.reverseRecOn with
  | nil => rfl
  | append_singleton calls c ih =>
    rw [TracedTransfers.after_concat, held_concat]
    exact call_entryOf ih c

/-! ## Origins -/

/-- The byte was given by one of these calls. -/
def Given.GivenIn (g : Given) (calls : List Call) : Prop := g.giver ∈ calls ∧ g.byte ∈ g.giver.data

/-- The call is about the control transfer with this endpoint number and id. -/
inductive Call.AboutControl (number : UInt8) (id : UInt64) : Call → Prop where
  | beginControl {endpoint} (hnumber : usbEndpointId endpoint = number) (setup data) :
    AboutControl number id (.beginControl endpoint id setup data)
  | appendControl {endpoint} (hnumber : usbEndpointId endpoint = number) (data) :
    AboutControl number id (.appendControl endpoint id data)
  | endControl {endpoint} (hnumber : usbEndpointId endpoint = number) (data) :
    AboutControl number id (.endControl endpoint id data)

/-- What the call `c` hands on after `before` was given to its own transfer. -/
inductive FromOwn (before : List Call) : Call → TracedDispatch → Prop where
  | control {endpoint id data number setup payload}
    (hown : ∀ g ∈ payload, g.GivenIn (before ++ [.endControl endpoint id data]) ∧
      g.giver.AboutControl (usbEndpointId endpoint) id) :
    FromOwn before (.endControl endpoint id data) (.control number setup payload)
  | bulkIn {endpoint id data number} :
    FromOwn before (.endBulk endpoint id data)
      (.bulkIn number (Call.endBulk endpoint id data).given)
  | bulkOut {endpoint id data number payload}
    (hown : payload = (Call.endBulk endpoint id data).given ∨
      ∀ g ∈ payload, g.GivenIn before ∧ ∃ begun, g.giver = .beginBulk endpoint id begun) :
    FromOwn before (.endBulk endpoint id data) (.bulkOut number payload)

/-- Every payload that these calls hand on, made on a fresh handle, was given to its own
transfer. -/
def OwnPayloads (calls : List Call) : Prop :=
  ∀ before c rest, calls = before ++ c :: rest →
    ∀ d, ((TracedTransfers.after before).call c).2 = some d → FromOwn before c d

/-- Whenever a bulk OUT transfer ends without a payload of its own, the calls that its
entry holds from control transfers carried nothing. -/
def NoControlBytes (calls : List Call) : Prop :=
  ∀ before endpoint id rest, calls = before ++ .endBulk endpoint id [] :: rest →
    usbEndpointOut endpoint = true →
      ∀ c ∈ held (endpoint, id) before, c.ofControl = true → c.data = []

section Origins

variable {before : List Call} {endpoint : UInt8} {id : UInt64}

/-- A byte of an entry was given by a call that the entry holds. -/
theorem mem_kept {key : TransferKey} {g : Given}
    (hg : g ∈ (held key before).flatMap Call.kept) :
    g.GivenIn before ∧ g.giver ∈ held key before ∧ g.giver.writes = some key := by
  obtain ⟨c, hc, hgc⟩ := List.mem_flatMap.mp hg
  obtain ⟨hgiver, hbyte⟩ := Call.mem_given (Call.mem_given_of_mem_kept hgc)
  obtain ⟨hmem, hwrites⟩ := (held_calls key before).1 c hc
  subst hgiver
  exact ⟨⟨hmem, hbyte⟩, hc, hwrites⟩

/-- An entry that a control transfer began holds calls of control transfers only. -/
theorem ofControl_of_control {key : TransferKey} {pending : TracedPending}
    (hentry : TracedTransfers.after before key = some pending) (hcontrol : pending.control ≠ false)
    {c : Call} (hc : c ∈ held key before) : c.ofControl = true := by
  rw [after_entryOf] at hentry
  have hhead := control_of_entryOf hentry
  have htail := (held_calls key before).2
  rw [eq_true_of_ne_false hcontrol] at hhead
  cases hheld : held key before with
  | nil =>
    rw [hheld] at hc
    exact absurd hc List.not_mem_nil
  | cons first rest =>
    rw [hheld] at hhead htail hc
    rcases List.mem_cons.mp hc with rfl | hrest
    · exact hhead
    · exact htail c hrest

theorem Call.aboutControl_of_writes {c : Call} {number : UInt8}
    (hwrites : c.writes = some (number, id)) (hcontrol : c.ofControl = true) :
    c.AboutControl number id := by
  cases c with
  | beginControl endpoint id' setup data =>
    obtain ⟨hnumber, rfl⟩ := Prod.mk.inj (Option.some.inj hwrites)
    exact .beginControl hnumber setup data
  | appendControl endpoint id' data =>
    obtain ⟨hnumber, rfl⟩ := Prod.mk.inj (Option.some.inj hwrites)
    exact .appendControl hnumber data
  | endControl => cases hcontrol
  | beginBulk => cases hcontrol
  | endBulk => cases hcontrol
  | abort => cases hcontrol

theorem Call.beginBulk_of_writes {c : Call} (hwrites : c.writes = some (endpoint, id))
    (hcontrol : c.ofControl ≠ true) : ∃ begun, c = .beginBulk endpoint id begun := by
  cases c with
  | beginControl => exact absurd rfl hcontrol
  | appendControl => exact absurd rfl hcontrol
  | beginBulk endpoint' id' begun =>
    obtain ⟨rfl, rfl⟩ := Prod.mk.inj (Option.some.inj hwrites)
    exact ⟨begun, rfl⟩
  | endControl => cases hwrites
  | endBulk => cases hwrites
  | abort => cases hwrites

theorem mem_controlPayload {pending : TracedPending} {data : List Given} {g : Given}
    (hg : g ∈ TracedTransfers.controlPayload pending data) : g ∈ pending.data ∨ g ∈ data := by
  have hpayload := List.mem_of_mem_take hg
  split at hpayload
  · split at hpayload
    · exact Or.inl hpayload
    · exact Or.inr hpayload
  · split at hpayload
    · exact Or.inl hpayload
    · exact Or.inr hpayload

/-- A control transfer hands on what was given to it. -/
theorem fromOwn_endControl {data : Bytes} {d : TracedDispatch}
    (hhanded : ((TracedTransfers.after before).call (.endControl endpoint id data)).2 = some d) :
    FromOwn before (.endControl endpoint id data) d := by
  simp only [TracedTransfers.call, TracedTransfers.endControl] at hhanded
  cases hentry : TracedTransfers.after before (usbEndpointId endpoint, id) with
  | none =>
    rw [hentry] at hhanded
    cases hhanded
  | some pending =>
    rw [hentry] at hhanded
    dsimp only at hhanded
    by_cases hcontrol : pending.control = false
    · rw [if_pos hcontrol] at hhanded
      cases hhanded
    · rw [if_neg hcontrol] at hhanded
      obtain rfl := Option.some.inj hhanded
      refine .control fun g hg => ?_
      rcases mem_controlPayload hg with hstored | hgiven
      · rw [data_of_entryOf ((after_entryOf before _).symm.trans hentry)] at hstored
        obtain ⟨⟨hmem, hbyte⟩, hheld, hwrites⟩ := mem_kept hstored
        have hof := ofControl_of_control hentry hcontrol hheld
        exact ⟨⟨List.mem_append_left _ hmem, hbyte⟩, Call.aboutControl_of_writes hwrites hof⟩
      · obtain ⟨hgiver, hbyte⟩ := Call.mem_given hgiven
        refine ⟨⟨?_, hbyte⟩, ?_⟩
        · rw [hgiver]
          exact List.mem_append_right _ List.mem_cons_self
        · rw [hgiver]
          exact .endControl rfl data

/-- What a bulk OUT transfer hands on: its completion's payload or, when that is empty,
its entry's. -/
theorem endBulk_out {data : Bytes} (hout : usbEndpointOut endpoint = true) :
    ((TracedTransfers.after before).call (.endBulk endpoint id data)).2 =
      some (.bulkOut (usbEndpointId endpoint)
        (if data = [] then (held (endpoint, id) before).flatMap Call.kept
        else (Call.endBulk endpoint id data).given)) := by
  have hin := usbEndpointOut_iff.mp hout
  have hpending : (((TracedTransfers.after before) (endpoint, id)).getD {}).data =
      (held (endpoint, id) before).flatMap Call.kept := by
    rw [after_entryOf]
    cases hentry : entryOf (held (endpoint, id) before) with
    | none =>
      rw [entryOf_eq_none.mp hentry]
      rfl
    | some pending => exact data_of_entryOf hentry
  have hlength : (Call.endBulk endpoint id data).given.length = 0 ↔ data = [] := by
    rw [← length_bytesOf, Call.bytesOf_given]
    exact List.length_eq_zero_iff
  simp only [TracedTransfers.call, TracedTransfers.endBulk, hin, Bool.false_eq_true, if_false,
    hpending, hlength]
  by_cases hnil : data = []
  · rw [if_pos hnil]
    by_cases hkept : (held (endpoint, id) before).flatMap Call.kept = []
    · rw [if_neg fun h => h.2 hkept, hkept, List.length_eq_zero_iff.mp (hlength.mpr hnil)]
    · rw [if_pos ⟨hnil, hkept⟩]
  · rw [if_neg hnil, if_neg fun h => hnil h.1]

/-- A bulk transfer hands on what was given to it, when its entry holds no bytes of a control
transfer or is not looked at. -/
theorem fromOwn_endBulk {data : Bytes} {d : TracedDispatch}
    (hclean : usbEndpointOut endpoint = true → data = [] →
      ∀ c ∈ held (endpoint, id) before, c.ofControl = true → c.data = [])
    (hhanded : ((TracedTransfers.after before).call (.endBulk endpoint id data)).2 = some d) :
    FromOwn before (.endBulk endpoint id data) d := by
  by_cases hout : usbEndpointOut endpoint = true
  · rw [endBulk_out hout] at hhanded
    obtain rfl := Option.some.inj hhanded
    refine .bulkOut ?_
    by_cases hnil : data = []
    · rw [if_pos hnil]
      refine Or.inr fun g hg => ?_
      obtain ⟨hgiven, hheld, hwrites⟩ := mem_kept hg
      refine ⟨hgiven, Call.beginBulk_of_writes hwrites fun hcontrol => ?_⟩
      have hbyte := hgiven.2
      rw [hclean hout hnil g.giver hheld hcontrol] at hbyte
      exact List.not_mem_nil hbyte
    · rw [if_neg hnil]
      exact Or.inl rfl
  · have hin := eq_true_of_ne_false (mt usbEndpointOut_iff.mpr hout)
    simp only [TracedTransfers.call, TracedTransfers.endBulk, hin, if_true] at hhanded
    obtain rfl := Option.some.inj hhanded
    exact .bulkIn

/-- A bulk OUT transfer that hands on its own bytes has an entry without bytes of a control
transfer. -/
theorem data_eq_nil_of_fromOwn (hout : usbEndpointOut endpoint = true)
    (hown : ∀ d, ((TracedTransfers.after before).call (.endBulk endpoint id [])).2 = some d →
      FromOwn before (.endBulk endpoint id []) d)
    {c : Call} (hc : c ∈ held (endpoint, id) before) (hcontrol : c.ofControl = true) :
    c.data = [] := by
  by_contra hdata
  -- a byte of `c`, which the transfer hands on
  obtain ⟨byte, hbyte⟩ := List.exists_mem_of_ne_nil _ hdata
  have hkept : (⟨byte, c⟩ : Given) ∈ c.kept := by
    have hgiven : (⟨byte, c⟩ : Given) ∈ c.given := List.mem_map.mpr ⟨byte, hbyte, rfl⟩
    cases c with
    | beginBulk => cases hcontrol
    | _ => exact hgiven
  have hpayload : (⟨byte, c⟩ : Given) ∈ (held (endpoint, id) before).flatMap Call.kept :=
    List.mem_flatMap.mpr ⟨c, hc, hkept⟩
  have hhanded : ((TracedTransfers.after before).call (.endBulk endpoint id [])).2 = _ :=
    endBulk_out hout
  rw [if_pos rfl] at hhanded
  rcases hown _ hhanded with _ | _ | hfrom
  rcases hfrom with hgiven | hbegun
  · rw [hgiven] at hpayload
    exact absurd hpayload List.not_mem_nil
  · obtain ⟨_, begun, hgiver⟩ := hbegun _ hpayload
    rw [show c = _ from hgiver] at hcontrol
    cases hcontrol

end Origins

/-- **Origins.** The traced calls hand on the bytes that the calls of a handle do. What a
control transfer hands on was always given to it, and what a bulk OUT transfer hands on
was given to it if and only if no bulk OUT transfer ends without a payload on an entry
with bytes of a control transfer. -/
theorem payload_origins (calls : List Call) :
    (∀ before c, ((({} : Transfers).run before).1.call c).2 =
      ((TracedTransfers.after before).call c).2.map TracedDispatch.erase) ∧
    (OwnPayloads calls ↔ NoControlBytes calls) := by
  refine ⟨fun before c => ((erases_run before).call c).2, ?_, ?_⟩
  · intro hown before endpoint id rest hcalls hout c hc hcontrol
    exact data_eq_nil_of_fromOwn hout (hown before _ rest hcalls) hc hcontrol
  · intro hclean before c rest hcalls d hhanded
    cases c with
    | beginControl => cases hhanded
    | appendControl => cases hhanded
    | beginBulk => cases hhanded
    | abort => cases hhanded
    | endControl endpoint id data => exact fromOwn_endControl hhanded
    | endBulk endpoint id data =>
      refine fromOwn_endBulk ?_ hhanded
      rintro hout rfl
      exact hclean before endpoint id rest hcalls hout

/-- A control OUT transfer to endpoint 2, completed by the bulk event of endpoint 0x02
with the same id. -/
theorem payload_origins_fails :
    ¬OwnPayloads [.beginControl 0x02 7 ⟨0x21, 1, 0, 0, 2⟩ [0xAA, 0xBB], .endBulk 0x02 7 []] := by
  intro hown
  have hfrom := hown [.beginControl 0x02 7 ⟨0x21, 1, 0, 0, 2⟩ [0xAA, 0xBB]] _ [] rfl
    (.bulkOut 2 (Call.beginControl 0x02 7 ⟨0x21, 1, 0, 0, 2⟩ [0xAA, 0xBB]).given) rfl
  rcases hfrom with _ | _ | hfrom
  rcases hfrom with hgiven | hbegun
  · cases hgiven
  · obtain ⟨_, begun, hgiver⟩ := hbegun _ List.mem_cons_self
    cases hgiver

end DemuxUsb
