import EvmSimulator.Hooks

/-!
# The access list a run builds

`appendToAccessList` keeps, beside the access list, a membership set of the
`(address, slot)` pairs it holds. A pair already in the set changes nothing; a new one
joins the first entry of its address, or a new entry at the end (`appendSlot`, the loop
with its `break`).

`firstTouchGrouping` says what the list is meant to be, from the touches alone: one
entry per address touched, in order of its first touch, each listing the slots touched
on it in order of their first touch (`List.eraseDups` keeps first occurrences). One more
touch changes the grouping exactly as `appendToAccessList` changes the list
(`firstTouchGrouping_append`), so from an empty list and membership set every sequence of
touches builds the grouping, and the membership set holds exactly the list's pairs
(`appendToAccessList_firstTouch`).
-/

namespace EvmSimulator

/-! ## First occurrences -/

section EraseDups

variable {α : Type} [BEq α] [LawfulBEq α]

theorem mem_eraseDups_loop (x : α) : ∀ (l bs : List α),
    x ∈ List.eraseDups.loop l bs ↔ x ∈ l ∨ x ∈ bs
  | [], bs => by simp [List.eraseDups.loop]
  | a :: l, bs => by
    by_cases h : a ∈ bs <;> simp only [List.eraseDups.loop, List.elem_eq_mem, h, decide_True,
      decide_False, mem_eraseDups_loop x l, List.mem_cons]
    · by_cases hx : x = a <;> simp [hx, h]
    · tauto

theorem nodup_eraseDups_loop : ∀ (l bs : List α), bs.Nodup → (List.eraseDups.loop l bs).Nodup
  | [], bs, h => by simpa [List.eraseDups.loop] using h
  | a :: l, bs, h => by
    by_cases ha : a ∈ bs
    · simp only [List.eraseDups.loop, List.elem_eq_mem, ha, decide_True]
      exact nodup_eraseDups_loop l bs h
    · simp only [List.eraseDups.loop, List.elem_eq_mem, ha, decide_False]
      exact nodup_eraseDups_loop l (a :: bs) (List.nodup_cons.2 ⟨ha, h⟩)

theorem eraseDups_loop_append_singleton (x : α) : ∀ (l bs : List α),
    List.eraseDups.loop (l ++ [x]) bs =
      if x ∈ l ∨ x ∈ bs then List.eraseDups.loop l bs else List.eraseDups.loop l bs ++ [x]
  | [], bs => by
    by_cases hx : x ∈ bs <;> simp [List.eraseDups.loop, hx]
  | a :: l, bs => by
    rw [List.cons_append]
    by_cases ha : a ∈ bs <;> simp only [List.eraseDups.loop, List.elem_eq_mem, ha, decide_True,
      decide_False, eraseDups_loop_append_singleton x l]
    · by_cases hx : x = a <;> simp [hx, ha]
    · exact if_congr (by simp only [List.mem_cons]; tauto) rfl rfl

@[simp] theorem mem_eraseDups {x : α} {l : List α} : x ∈ l.eraseDups ↔ x ∈ l := by
  simp [List.eraseDups, mem_eraseDups_loop]

theorem nodup_eraseDups (l : List α) : l.eraseDups.Nodup :=
  nodup_eraseDups_loop l [] List.nodup_nil

/-- A later occurrence of an element is dropped, a first one kept at the end. -/
theorem eraseDups_append_singleton (l : List α) (x : α) :
    (l ++ [x]).eraseDups = if x ∈ l then l.eraseDups else l.eraseDups ++ [x] := by
  simp [List.eraseDups, eraseDups_loop_append_singleton]

end EraseDups

/-! ## The grouping a sequence of touches is meant to build -/

/-- The slots touched on `a`, in order of their first touch. -/
def slotsTouched (touches : List (Address × Word)) (a : Address) : List Word :=
  ((touches.filter (·.1 == a)).map Prod.snd).eraseDups

/-- The first-touch grouping of a sequence of storage touches: one entry per distinct
address, in order of its first touch, listing the distinct slots touched on it in order
of their first touch. -/
def firstTouchGrouping (touches : List (Address × Word)) : AccessList :=
  (touches.map Prod.fst).eraseDups.map fun a => ⟨a, slotsTouched touches a⟩

/-- The spec's three-touch example, with a repeated touch. -/
example :
    firstTouchGrouping [(1, 5), (2, 7), (1, 6), (1, 5)] = [⟨1, [5, 6]⟩, ⟨2, [7]⟩] := by
  decide

theorem mem_slotsTouched {touches : List (Address × Word)} {a : Address} {s : Word} :
    s ∈ slotsTouched touches a ↔ (a, s) ∈ touches := by
  simp [slotsTouched]

theorem slotsTouched_append (touches : List (Address × Word)) (a b : Address) (s : Word) :
    slotsTouched (touches ++ [(a, s)]) b =
      if a = b ∧ (a, s) ∉ touches then slotsTouched touches b ++ [s]
      else slotsTouched touches b := by
  by_cases hab : a = b
  · subst hab
    have hmem : s ∈ (touches.filter (·.1 == a)).map Prod.snd ↔ (a, s) ∈ touches := by
      rw [← mem_eraseDups]; exact mem_slotsTouched
    simp only [slotsTouched, List.filter_append, List.filter_singleton, beq_self_eq_true,
      cond_true, List.map_append, List.map_singleton, true_and, eraseDups_append_singleton]
    by_cases hs : (a, s) ∈ touches <;> simp [hs, hmem]
  · have hba : (a == b) = false := by simpa using hab
    simp [slotsTouched, List.filter_append, hba, hab]

/-! ## `appendSlot` on a grouping -/

/-- Appending a slot to the entry of an address that has one, in a list of entries
with distinct addresses, appends it to that entry alone; an address without one gets a
new entry at the end. -/
theorem appendSlot_map (a : Address) (s : Word) (f : Address → List Word) :
    ∀ (L : List Address), L.Nodup →
      appendSlot a s (L.map fun b => ⟨b, f b⟩) =
        if a ∈ L then L.map (fun b => ⟨b, if b = a then f b ++ [s] else f b⟩)
        else L.map (fun b => ⟨b, f b⟩) ++ [⟨a, [s]⟩]
  | [], _ => by simp [appendSlot]
  | b :: L, hnd => by
    obtain ⟨hb, hL⟩ := List.nodup_cons.1 hnd
    by_cases hba : b = a
    · subst hba
      have hmap : L.map (fun c => (⟨c, if c = b then f c ++ [s] else f c⟩ : AccessTuple)) =
          L.map fun c => ⟨c, f c⟩ :=
        List.map_congr_left fun c hc => by rw [if_neg (by rintro rfl; exact hb hc)]
      simp [appendSlot, hmap]
    · have ih := appendSlot_map a s f L hL
      simp only [List.map_cons, appendSlot, hba, if_false, List.mem_cons, Ne.symm hba,
        false_or, ih]
      split_ifs <;> simp [hba]

/-- One more touch changes the grouping as `appendToAccessList` changes the list: not at
all for a pair touched before, by `appendSlot` for a new one. -/
theorem firstTouchGrouping_append (touches : List (Address × Word)) (a : Address) (s : Word) :
    firstTouchGrouping (touches ++ [(a, s)]) =
      if (a, s) ∈ touches then firstTouchGrouping touches
      else appendSlot a s (firstTouchGrouping touches) := by
  have haddr : (touches ++ [(a, s)]).map Prod.fst = touches.map Prod.fst ++ [a] := by simp
  unfold firstTouchGrouping
  rw [haddr, eraseDups_append_singleton, appendSlot_map a s _ _ (nodup_eraseDups _)]
  simp only [slotsTouched_append, mem_eraseDups]
  by_cases hs : (a, s) ∈ touches
  · have ha : a ∈ touches.map Prod.fst := List.mem_map_of_mem _ hs
    simp [hs, ha]
  · by_cases ha : a ∈ touches.map Prod.fst
    · simp only [hs, ha, if_true, if_false, not_false_eq_true, and_true]
      exact List.map_congr_left fun b _ => by by_cases h : a = b <;> simp [h, eq_comm]
    · have hnew : slotsTouched touches a = [] := List.eq_nil_iff_forall_not_mem.2
        fun s' hs' => ha (List.mem_map.2 ⟨(a, s'), mem_slotsTouched.1 hs', rfl⟩)
      simp only [hs, ha, if_false, not_false_eq_true, and_true, List.map_append,
        List.map_singleton, if_true, hnew, List.nil_append]
      congr 1
      exact List.map_congr_left fun b hb => by
        rw [if_neg (by rintro rfl; exact ha (mem_eraseDups.1 hb))]

/-- The grouping lists each address once. -/
theorem nodup_firstTouchGrouping_address (touches : List (Address × Word)) :
    ((firstTouchGrouping touches).map AccessTuple.address).Nodup := by
  simpa [firstTouchGrouping, Function.comp_def] using nodup_eraseDups (touches.map Prod.fst)

/-- Each entry of the grouping lists each slot once. -/
theorem nodup_storageKeys_of_mem_firstTouchGrouping {touches : List (Address × Word)}
    {t : AccessTuple} (ht : t ∈ firstTouchGrouping touches) : t.storageKeys.Nodup := by
  obtain ⟨a, -, rfl⟩ := List.mem_map.1 ht
  exact nodup_eraseDups _

/-- The pairs of the grouping are the touches. -/
theorem mem_firstTouchGrouping {touches : List (Address × Word)} {a : Address} {s : Word} :
    (∃ t ∈ firstTouchGrouping touches, t.address = a ∧ s ∈ t.storageKeys) ↔
      (a, s) ∈ touches := by
  constructor
  · rintro ⟨t, ht, rfl, hs⟩
    obtain ⟨b, -, rfl⟩ := List.mem_map.1 ht
    exact mem_slotsTouched.1 hs
  · intro h
    exact ⟨⟨a, slotsTouched touches a⟩,
      List.mem_map.2 ⟨a, mem_eraseDups.2 (List.mem_map_of_mem _ h), rfl⟩, rfl,
      mem_slotsTouched.2 h⟩

/-! ## The list a run builds -/

/-- Along the touches, the access list is their grouping and the membership set their
distinct pairs, in order of first touch. -/
theorem appendToAccessList_foldlM (i : Interpreter) (touches : List (Address × Word)) :
    ∃ i', touches.foldlM (fun i t => appendToAccessList t.1 [t.2] i)
        { i with accessList := [], addressSlotAccessListSet := [] } = .ok i' ∧
      i'.accessList = firstTouchGrouping touches ∧
      i'.addressSlotAccessListSet = touches.eraseDups := by
  induction touches using List.reverseRecOn with
  | nil => exact ⟨_, rfl, rfl, rfl⟩
  | append_singleton touches t ih =>
    obtain ⟨i', hfold, hlist, hset⟩ := ih
    obtain ⟨a, s⟩ := t
    have hmem : (a, s) ∈ i'.addressSlotAccessListSet ↔ (a, s) ∈ touches := by
      rw [hset, mem_eraseDups]
    rw [List.foldlM_append, hfold]
    simp only [List.foldlM_cons, List.foldlM_nil, bind, Except.bind, appendToAccessList,
      firstTouchGrouping_append, eraseDups_append_singleton]
    by_cases h : (a, s) ∈ touches
    · simp only [hmem.2 h, h, if_true]
      exact ⟨i', rfl, hlist, hset⟩
    · simp only [mt hmem.1 h, h, if_false]
      exact ⟨_, rfl, by rw [hlist], by rw [hset]⟩

/-- From an empty access list and membership set, `appendToAccessList` run on any
sequence of storage touches builds their first-touch grouping: no address and no
`(address, slot)` pair appears twice, and the membership set holds exactly the pairs of
the list. -/
theorem appendToAccessList_firstTouch (touches : List (Address × Word)) (i : Interpreter) :
    ∃ i', touches.foldlM (fun i t => appendToAccessList t.1 [t.2] i)
        { i with accessList := [], addressSlotAccessListSet := [] } = .ok i' ∧
      i'.accessList = firstTouchGrouping touches ∧
      (i'.accessList.map AccessTuple.address).Nodup ∧
      (∀ t ∈ i'.accessList, t.storageKeys.Nodup) ∧
      ∀ a s, (a, s) ∈ i'.addressSlotAccessListSet ↔
        ∃ t ∈ i'.accessList, t.address = a ∧ s ∈ t.storageKeys := by
  obtain ⟨i', hfold, hlist, hset⟩ := appendToAccessList_foldlM i touches
  refine ⟨i', hfold, hlist, ?_, ?_, fun a s => ?_⟩
  · rw [hlist]; exact nodup_firstTouchGrouping_address touches
  · rw [hlist]; exact fun t => nodup_storageKeys_of_mem_firstTouchGrouping
  · rw [hlist, hset, mem_eraseDups, mem_firstTouchGrouping]

end EvmSimulator
