import SuiTemporaryStore.Store

/-!
# Forcing every mutable input to advance

`ensure_active_inputs_mutated` collects the inputs that are mutable but absent from
`objects_modified_at`, then pushes each, unchanged, through `mutate_input_object`.
Every declared-mutable input then has a pre-image, so its version advances, and no
write, deletion or wrap made before is overwritten by the stale input image.
-/
namespace SuiTemporaryStore

namespace TemporaryStore

theorem mapM_index {β : Type} (m : ObjMap β) (ks : List ObjectID) (h : ∀ k ∈ ks, k ∈ m) :
    ks.mapM m.index = .ok (ks.filterMap m.lookup) := by
  induction ks with
  | nil => rfl
  | cons k ks ih =>
    obtain ⟨b, hb⟩ := Option.isSome_iff_exists.mp
      (AList.lookup_isSome.mpr (h k (List.mem_cons_self _ _)))
    rw [List.mapM_cons, ih fun k' hk' => h k' (List.mem_cons_of_mem _ hk')]
    simp only [List.filterMap_cons, ObjMap.index, hb]; rfl

theorem map_id_filterMap_lookup {m : ObjMap Object} (hm : Keyed m) (ks : List ObjectID)
    (h : ∀ k ∈ ks, k ∈ m) : (ks.filterMap m.lookup).map Object.id = ks := by
  induction ks with
  | nil => rfl
  | cons k ks ih =>
    obtain ⟨o, ho⟩ := Option.isSome_iff_exists.mp
      (AList.lookup_isSome.mpr (h k (List.mem_cons_self _ _)))
    simp only [List.filterMap_cons, ho, List.map_cons, hm.id_eq ho,
      ih fun k' hk' => h k' (List.mem_cons_of_mem _ hk')]

/-- A sequence of `mutate_input_object` calls on mutable inputs records, for each id it
touches, the mutable reference as pre-image and the last object as post-image; every
other entry and both id sets stay as they were. -/
theorem foldlM_mutateInputObject (l : List Object) (s : TemporaryStore)
    (hl : ∀ o ∈ l, o.id ∈ s.mutableInputRefs) :
    ∃ r : ExecutionResultsV2,
      l.foldlM mutateInputObject s = .ok { s with executionResults := r } ∧
      r.createdObjectIds = s.executionResults.createdObjectIds ∧
      r.deletedObjectIds = s.executionResults.deletedObjectIds ∧
      ∀ id, (id ∈ l.map Object.id →
          r.objectsModifiedAt.lookup id = s.mutableInputRefs.lookup id ∧
          ∃ o ∈ l, o.id = id ∧ r.writtenObjects.lookup id = some o) ∧
        (id ∉ l.map Object.id →
          r.objectsModifiedAt.lookup id = s.executionResults.objectsModifiedAt.lookup id ∧
          r.writtenObjects.lookup id = s.executionResults.writtenObjects.lookup id) := by
  induction l generalizing s with
  | nil => exact ⟨_, rfl, rfl, rfl, fun _ => ⟨fun h => (List.not_mem_nil _ h).elim,
      fun _ => ⟨rfl, rfl⟩⟩⟩
  | cons o l ih =>
    obtain ⟨ref, href⟩ := Option.isSome_iff_exists.mp
      (AList.lookup_isSome.mpr (hl o (List.mem_cons_self _ _)))
    obtain ⟨r, hr, hc, hd, hlk⟩ := ih
      { s with executionResults := (s.executionResults.modifyAt o.id ref).writeObject o }
      fun o' ho' => hl o' (List.mem_cons_of_mem _ ho')
    refine ⟨r, by rw [List.foldlM_cons, mutateInputObject_of_lookup href]; exact hr, hc, hd,
      fun id => ⟨fun hid => ?_, fun hid => ?_⟩⟩
    · by_cases hin : id ∈ l.map Object.id
      · obtain ⟨h₁, o', ho', h₂⟩ := (hlk id).1 hin
        exact ⟨h₁, o', List.mem_cons_of_mem _ ho', h₂⟩
      · have hid : id = o.id := by simpa [hin] using hid
        subst hid
        obtain ⟨h₁, h₂⟩ := (hlk o.id).2 hin
        simp only [ExecutionResultsV2.writeObject_objectsModifiedAt,
          ExecutionResultsV2.modifyAt_objectsModifiedAt, AList.lookup_insert,
          ExecutionResultsV2.writeObject_writtenObjects,
          ExecutionResultsV2.modifyAt_writtenObjects] at h₁ h₂
        exact ⟨h₁.trans href.symm, o, List.mem_cons_self _ _, rfl, h₂⟩
    · simp only [List.map_cons, List.mem_cons, not_or] at hid
      obtain ⟨h₁, h₂⟩ := (hlk id).2 hid.2
      simp only [ExecutionResultsV2.writeObject_objectsModifiedAt,
        ExecutionResultsV2.modifyAt_objectsModifiedAt, AList.lookup_insert_ne hid.1,
        ExecutionResultsV2.writeObject_writtenObjects,
        ExecutionResultsV2.modifyAt_writtenObjects] at h₁ h₂
      exact ⟨h₁, h₂⟩

/-- `ensure_active_inputs_mutated` never panics: it gives each mutable input not yet in
`objects_modified_at` its mutable reference as pre-image and its input object as
post-image, and changes nothing else. -/
theorem ensureActiveInputsMutated_eq (s : TemporaryStore) :
    ∃ r, s.ensureActiveInputsMutated = .ok { s with executionResults := r } ∧
      r.createdObjectIds = s.executionResults.createdObjectIds ∧
      r.deletedObjectIds = s.executionResults.deletedObjectIds ∧
      ∀ id, (id ∈ s.mutableInputRefs ∧ id ∉ s.executionResults.objectsModifiedAt →
          r.objectsModifiedAt.lookup id = s.mutableInputRefs.lookup id ∧
          r.writtenObjects.lookup id = s.inputObjects.lookup id) ∧
        (¬ (id ∈ s.mutableInputRefs ∧ id ∉ s.executionResults.objectsModifiedAt) →
          r.objectsModifiedAt.lookup id = s.executionResults.objectsModifiedAt.lookup id ∧
          r.writtenObjects.lookup id = s.executionResults.writtenObjects.lookup id) := by
  set ks := s.mutableInputRefs.keys.filter (· ∉ s.executionResults.objectsModifiedAt)
  have mem_ks : ∀ id, id ∈ ks ↔ id ∈ s.mutableInputRefs ∧
      id ∉ s.executionResults.objectsModifiedAt := by
    intro id; simp [ks, List.mem_filter, AList.mem_keys]
  have hks : ∀ k ∈ ks, k ∈ s.inputObjects := fun k hk =>
    AList.mem_keys.mpr (s.mutable_inputs k (AList.mem_keys.mp ((mem_ks k).mp hk).1))
  have hids := map_id_filterMap_lookup s.inputs_keyed ks hks
  obtain ⟨r, hr, hc, hd, hlk⟩ := foldlM_mutateInputObject (ks.filterMap s.inputObjects.lookup) s
    fun o ho => ((mem_ks o.id).mp (hids ▸ List.mem_map_of_mem _ ho)).1
  rw [hids] at hlk
  refine ⟨r, by rw [ensureActiveInputsMutated, mapM_index _ _ hks]; exact hr, hc, hd,
    fun id => ⟨fun hid => ?_, fun hid => (hlk id).2 (mt (mem_ks id).mp hid)⟩⟩
  obtain ⟨h₁, o, ho, hoid, h₂⟩ := (hlk id).1 ((mem_ks id).mpr hid)
  obtain ⟨k, -, hk⟩ := List.mem_filterMap.mp ho
  obtain rfl : k = id := (s.inputs_keyed.id_eq hk).symm.trans hoid
  exact ⟨h₁, h₂.trans hk.symm⟩

/-- After `ensure_active_inputs_mutated` every mutable input has a pre-image. -/
theorem ensureActiveInputsMutated_mem {s : TemporaryStore} {r : ExecutionResultsV2}
    (h : s.ensureActiveInputsMutated = .ok { s with executionResults := r }) :
    ∀ id ∈ s.mutableInputRefs, id ∈ r.objectsModifiedAt := by
  obtain ⟨r', hr', -, -, hlk⟩ := ensureActiveInputsMutated_eq s
  obtain rfl : r = r' := congrArg executionResults (Except.ok.inj (h.symm.trans hr'))
  intro id hid
  rw [← AList.lookup_isSome]
  by_cases hmod : id ∈ s.executionResults.objectsModifiedAt
  · rw [((hlk id).2 fun h => h.2 hmod).1, AList.lookup_isSome]; exact hmod
  · rw [((hlk id).1 ⟨hid, hmod⟩).1, AList.lookup_isSome]; exact hid

/-- Under the bookkeeping every run keeps (a written id is modified or created, and no
input is created), `ensure_active_inputs_mutated` puts every mutable input into
`objects_modified_at`, leaves every id already there as it was, and gives each id it
adds, which had no written object before, the mutable reference as pre-image and the
input object as post-image. -/
theorem ensureActiveInputsMutated_spec (s : TemporaryStore)
    (hwritten : ∀ id ∈ s.executionResults.writtenObjects,
      id ∈ s.executionResults.objectsModifiedAt ∨ id ∈ s.executionResults.createdObjectIds)
    (hcreated : ∀ id ∈ s.executionResults.createdObjectIds, id ∉ s.inputObjects) :
    ∃ r, s.ensureActiveInputsMutated = .ok { s with executionResults := r } ∧
      (∀ id ∈ s.mutableInputRefs, id ∈ r.objectsModifiedAt) ∧
      (∀ id, (id ∈ s.executionResults.objectsModifiedAt ∨ id ∉ s.mutableInputRefs) →
        r.objectsModifiedAt.lookup id = s.executionResults.objectsModifiedAt.lookup id ∧
        r.writtenObjects.lookup id = s.executionResults.writtenObjects.lookup id) ∧
      (∀ id ∈ s.mutableInputRefs, id ∉ s.executionResults.objectsModifiedAt →
        s.executionResults.writtenObjects.lookup id = none ∧
        r.objectsModifiedAt.lookup id = s.mutableInputRefs.lookup id ∧
        r.writtenObjects.lookup id = s.inputObjects.lookup id) ∧
      r.deletedObjectIds = s.executionResults.deletedObjectIds ∧
      r.createdObjectIds = s.executionResults.createdObjectIds := by
  obtain ⟨r, hr, hc, hd, hlk⟩ := ensureActiveInputsMutated_eq s
  have kept : ∀ id, (id ∈ s.executionResults.objectsModifiedAt ∨ id ∉ s.mutableInputRefs) →
      r.objectsModifiedAt.lookup id = s.executionResults.objectsModifiedAt.lookup id ∧
      r.writtenObjects.lookup id = s.executionResults.writtenObjects.lookup id :=
    fun id hid => (hlk id).2 fun h => hid.elim h.2 (absurd h.1)
  refine ⟨r, hr, ensureActiveInputsMutated_mem hr, kept, fun id hid hmod => ?_, hd, hc⟩
  refine ⟨AList.lookup_eq_none.mpr fun hw => ?_, (hlk id).1 ⟨hid, hmod⟩⟩
  rcases hwritten id hw with hm | hcr
  · exact hmod hm
  · exact hcreated id hcr (AList.mem_keys.mpr (s.mutable_inputs id (AList.mem_keys.mp hid)))

/-- A store that mutated input 1 and deleted input 2 keeps the bookkeeping, and
`ensure_active_inputs_mutated` leaves both pre-images as they were and forces input 3 with
its own reference and object. -/
theorem ensureActiveInputsMutated_after_mutate_and_delete :
    let o₁ : Object := ⟨1, 3, 0, .addressOwner 9, 0, 5, .move "coin" []⟩
    let o₂ : Object := ⟨2, 3, 0, .addressOwner 9, 0, 6, .move "coin" []⟩
    let o₃ : Object := ⟨3, 4, 0, .addressOwner 9, 0, 7, .move "coin" []⟩
    let s₀ := new .empty ⟨[(true, o₁), (true, o₂), (true, o₃)]⟩ 0 ⟨0, 0, false⟩
    ∃ s, (s₀.mutateInputObject { o₁ with storageRebate := 8 } >>= fun s =>
        s.deleteInputObject 2) = .ok s ∧
      (∀ id ∈ s.executionResults.writtenObjects,
        id ∈ s.executionResults.objectsModifiedAt ∨ id ∈ s.executionResults.createdObjectIds) ∧
      (∀ id ∈ s.executionResults.createdObjectIds, id ∉ s.inputObjects) ∧
      ∃ r, s.ensureActiveInputsMutated = .ok { s with executionResults := r } ∧
        (∀ id ∈ s.mutableInputRefs, id ∈ r.objectsModifiedAt) ∧
        r.objectsModifiedAt.lookup 1 = some (3, 0) ∧
        r.objectsModifiedAt.lookup 2 = some (3, 0) ∧ r.deletedObjectIds = {2} ∧
        r.objectsModifiedAt.lookup 3 = some (4, 0) ∧ r.writtenObjects.lookup 3 = some o₃ := by
  intro o₁ o₂ o₃ s₀
  refine ⟨_, rfl, ?written, fun id hid => absurd hid (Finset.not_mem_empty id), ?_⟩
  · intro id hid
    rw [AList.mem_keys] at hid
    revert id
    decide
  · obtain ⟨r, hr, hmem, hkept, hforced, hd, -⟩ := ensureActiveInputsMutated_spec _ ?written
      fun id hid => absurd hid (Finset.not_mem_empty id)
    refine ⟨r, hr, hmem, (hkept 1 (.inl (by decide))).1, (hkept 2 (.inl (by decide))).1,
      by rw [hd]; decide, (hforced 3 (by decide) (by decide)).2.1,
      (hforced 3 (by decide) (by decide)).2.2⟩

end TemporaryStore

end SuiTemporaryStore
