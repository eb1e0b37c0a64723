import SuiTemporaryStore.StorageRebate

/-!
# The modified-object stream

Both conservation checks walk `get_modified_objects`: every id of
`objects_modified_at` with its pre-image version and rebate and its post-image if any,
chained with every written id that has no pre-image. Each touched id occurs once.
-/
namespace SuiTemporaryStore

namespace TemporaryStore

/-- `ModifiedObjectInfo`: an id, the version and rebate of its pre-image if the object
existed before the transaction, and its post-image if one is written. -/
abbrev ModifiedObjectInfo := ObjectID × Option (SequenceNumber × UInt64) × Option Object

/-- The element `get_modified_objects` yields for an entry of `objects_modified_at`. -/
def modifiedEntry (s : TemporaryStore) (e : Σ _ : ObjectID, VersionDigest) :
    Except Failure ModifiedObjectInfo := do
  let storageRebate ← s.getInputStorageRebate e.1 e.2.1
  pure (e.1, some (e.2.1, storageRebate), s.executionResults.writtenObjects.lookup e.1)

/-- The element it yields for a written object without a pre-image. -/
def createdEntry (s : TemporaryStore) (e : Σ _ : ObjectID, Object) :
    Option ModifiedObjectInfo :=
  if e.1 ∈ s.executionResults.objectsModifiedAt then none else some (e.1, none, some e.2)

/-- `get_modified_objects`. -/
def getModifiedObjects (s : TemporaryStore) : Except Failure (List ModifiedObjectInfo) := do
  let modified ← s.executionResults.objectsModifiedAt.entries.mapM s.modifiedEntry
  pure (modified ++ s.executionResults.writtenObjects.entries.filterMap s.createdEntry)

theorem modifiedEntry_ok {s : TemporaryStore} {e : Σ _ : ObjectID, VersionDigest}
    {b : ModifiedObjectInfo} (h : s.modifiedEntry e = .ok b) : ∃ r,
      s.getInputStorageRebate e.1 e.2.1 = .ok r ∧
      b = (e.1, some (e.2.1, r), s.executionResults.writtenObjects.lookup e.1) := by
  obtain ⟨r, hr, h⟩ := bind_eq_ok.mp h
  exact ⟨r, hr, (Except.ok.inj h).symm⟩

/-- What the first part of the stream is when it can be built. -/
theorem mapM_modifiedEntry_ok (s : TemporaryStore) (es : List (Σ _ : ObjectID, VersionDigest))
    {l : List ModifiedObjectInfo} (h : es.mapM s.modifiedEntry = .ok l) :
    l.map (·.1) = es.map (·.1) ∧
    (∀ e ∈ es, ∃ r, s.getInputStorageRebate e.1 e.2.1 = .ok r) ∧
    ∀ b ∈ l, ∃ e ∈ es, ∃ r, s.getInputStorageRebate e.1 e.2.1 = .ok r ∧
      b = (e.1, some (e.2.1, r), s.executionResults.writtenObjects.lookup e.1) := by
  induction es generalizing l with
  | nil => cases h; exact ⟨rfl, fun _ he => absurd he (List.not_mem_nil _),
      fun _ hb => absurd hb (List.not_mem_nil _)⟩
  | cons e es ih =>
    rw [List.mapM_cons] at h
    obtain ⟨b, hb, h⟩ := bind_eq_ok.mp h
    obtain ⟨bs, hbs, h⟩ := bind_eq_ok.mp h
    cases h
    obtain ⟨r, hr, rfl⟩ := modifiedEntry_ok hb
    obtain ⟨hids, hdef, hmem⟩ := ih hbs
    refine ⟨by simp [hids], fun e' he' => ?_, fun b' hb' => ?_⟩
    · rcases List.mem_cons.mp he' with rfl | he'
      exacts [⟨r, hr⟩, hdef e' he']
    rcases List.mem_cons.mp hb' with rfl | hb'
    · exact ⟨e, List.mem_cons_self _ _, r, hr, rfl⟩
    · obtain ⟨e', he', h'⟩ := hmem b' hb'
      exact ⟨e', List.mem_cons_of_mem _ he', h'⟩

/-- The first part of the stream can be built when every pre-image rebate can be looked
up. -/
theorem mapM_modifiedEntry_of_rebates (s : TemporaryStore)
    (es : List (Σ _ : ObjectID, VersionDigest))
    (h : ∀ e ∈ es, ∃ r, s.getInputStorageRebate e.1 e.2.1 = .ok r) :
    ∃ l, es.mapM s.modifiedEntry = .ok l := by
  induction es with
  | nil => exact ⟨[], rfl⟩
  | cons e es ih =>
    obtain ⟨r, hr⟩ := h e (List.mem_cons_self _ _)
    obtain ⟨l, hl⟩ := ih fun e' he' => h e' (List.mem_cons_of_mem _ he')
    refine ⟨(e.1, some (e.2.1, r), s.executionResults.writtenObjects.lookup e.1) :: l, ?_⟩
    rw [List.mapM_cons, hl]
    simp only [modifiedEntry, hr]; rfl

theorem filterMap_createdEntry (s : TemporaryStore) (l : List (Σ _ : ObjectID, Object)) :
    l.filterMap s.createdEntry = (l.filter (·.1 ∉ s.executionResults.objectsModifiedAt)).map
      fun e => (e.1, none, some e.2) := by
  induction l with
  | nil => rfl
  | cons e l ih =>
    by_cases he : e.1 ∈ s.executionResults.objectsModifiedAt <;>
      simp [createdEntry, he, ih, List.filter_cons]

/-- The second part of the stream names each written id without a pre-image, once. -/
theorem filterMap_createdEntry_ids (s : TemporaryStore) :
    ((s.executionResults.writtenObjects.entries.filterMap s.createdEntry).map (·.1)).Nodup ∧
    ∀ id, id ∈ (s.executionResults.writtenObjects.entries.filterMap s.createdEntry).map (·.1) ↔
      id ∈ s.executionResults.writtenObjects ∧ id ∉ s.executionResults.objectsModifiedAt := by
  have hids : (s.executionResults.writtenObjects.entries.filterMap s.createdEntry).map (·.1) =
      (s.executionResults.writtenObjects.entries.filter
        (·.1 ∉ s.executionResults.objectsModifiedAt)).keys := by
    simp [filterMap_createdEntry, List.keys]
  refine ⟨hids ▸ s.executionResults.writtenObjects.nodupKeys.sublist (List.filter_sublist _),
    fun id => ?_⟩
  simp only [hids, List.keys, List.mem_map, List.mem_filter, decide_eq_true_eq, AList.mem_keys,
    AList.keys]
  constructor
  · rintro ⟨e, ⟨he, hm⟩, rfl⟩; exact ⟨⟨e, he, rfl⟩, hm⟩
  · rintro ⟨⟨e, he, rfl⟩, hm⟩; exact ⟨e, ⟨he, hm⟩, rfl⟩

/-- Every pre-image rebate of `objects_modified_at` can be looked up. -/
def RebatesDefined (s : TemporaryStore) : Prop :=
  ∀ id v d, s.executionResults.objectsModifiedAt.lookup id = some (v, d) →
    ∃ r, s.getInputStorageRebate id v = .ok r

theorem getModifiedObjects_ok {s : TemporaryStore} (hdef : s.RebatesDefined) :
    ∃ l, s.getModifiedObjects = .ok l := by
  obtain ⟨l₁, h₁⟩ := mapM_modifiedEntry_of_rebates s _ fun e he =>
    hdef e.1 e.2.1 e.2.2 (AList.mem_lookup_iff.mpr he)
  exact ⟨_, by rw [getModifiedObjects, h₁]; rfl⟩

/-- `get_modified_objects` returns exactly when every pre-image rebate can be looked up,
and then yields each id of `objects_modified_at` or `written_objects` once, with the
recorded version and its rebate as input exactly when the id has a pre-image, and the
written object, if any, as output. -/
theorem getModifiedObjects_spec (s : TemporaryStore) :
    ((∃ l, s.getModifiedObjects = .ok l) ↔
      ∀ id v d, s.executionResults.objectsModifiedAt.lookup id = some (v, d) →
        ∃ r, s.getInputStorageRebate id v = .ok r) ∧
    ∀ l, s.getModifiedObjects = .ok l →
      (l.map (·.1)).Nodup ∧
      (∀ id, id ∈ l.map (·.1) ↔
        id ∈ s.executionResults.objectsModifiedAt ∨ id ∈ s.executionResults.writtenObjects) ∧
      ∀ b ∈ l,
        (∀ v d, s.executionResults.objectsModifiedAt.lookup b.1 = some (v, d) →
          ∃ r, s.getInputStorageRebate b.1 v = .ok r ∧ b.2.1 = some (v, r)) ∧
        (s.executionResults.objectsModifiedAt.lookup b.1 = none → b.2.1 = none) ∧
        b.2.2 = s.executionResults.writtenObjects.lookup b.1 := by
  set M := s.executionResults.objectsModifiedAt
  refine ⟨⟨fun ⟨l, hl⟩ id v d hid => ?_, getModifiedObjects_ok⟩, fun l hl => ?_⟩
  · obtain ⟨l₁, h₁, -⟩ := bind_eq_ok.mp hl
    exact (mapM_modifiedEntry_ok s _ h₁).2.1 ⟨id, (v, d)⟩ (AList.mem_lookup_iff.mp hid)
  · obtain ⟨l₁, h₁, hl⟩ := bind_eq_ok.mp hl
    cases hl
    obtain ⟨hids, -, hmem⟩ := mapM_modifiedEntry_ok s _ h₁
    obtain ⟨hnodup, hcreated⟩ := filterMap_createdEntry_ids s
    refine ⟨?_, fun id => ?_, fun b hb => ?_⟩
    · rw [List.map_append, hids, List.nodup_append]
      exact ⟨M.keys_nodup, hnodup, fun id h₁ h₂ => ((hcreated id).mp h₂).2 (AList.mem_keys.mpr h₁)⟩
    · rw [List.map_append, hids, List.mem_append, hcreated]
      show id ∈ M.keys ∨ _ ↔ _
      rw [← AList.mem_keys]
      by_cases hm : id ∈ M <;> simp [hm]
    · rw [filterMap_createdEntry] at hb
      rcases List.mem_append.mp hb with hb | hb
      · obtain ⟨⟨k, v', d'⟩, he, r, hr, rfl⟩ := hmem b hb
        have hlk : M.lookup k = some (v', d') := AList.mem_lookup_iff.mpr he
        dsimp only
        refine ⟨fun v d h => ?_, fun h => absurd (hlk.symm.trans h) (Option.some_ne_none _), rfl⟩
        obtain ⟨rfl, rfl⟩ := Prod.mk.inj (Option.some_inj.mp (hlk.symm.trans h))
        exact ⟨r, hr, rfl⟩
      · obtain ⟨e, he, rfl⟩ := List.mem_map.mp hb
        obtain ⟨he, hm⟩ := List.mem_filter.mp he
        have hnone : M.lookup e.1 = none := AList.lookup_eq_none.mpr (by simpa using hm)
        exact ⟨fun v d h => absurd (hnone.symm.trans h) (Option.some_ne_none _).symm, fun _ => rfl,
          (AList.mem_lookup_iff.mpr he).symm⟩

end TemporaryStore

end SuiTemporaryStore
