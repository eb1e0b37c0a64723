import SuiTemporaryStore.Store

/-!
# Saving loaded child objects

`save_loaded_child_objects` merges the child objects one VM run loaded into those of
the earlier runs with `BTreeMap::extend`. Its debug build first asserts that the two
maps agree on every key they share. Under that check the merged maps form a union,
whatever the number and order of the runs.
-/
namespace SuiTemporaryStore

open TemporaryStore

variable {β : Type}

/-- The check of the debug build: on every key two maps share, they hold the same value. -/
def Compatible (m m' : ObjMap β) : Prop :=
  ∀ e ∈ m.entries, ∀ e' ∈ m'.entries, e.1 = e'.1 → e.2 = e'.2

instance [DecidableEq β] (m m' : ObjMap β) : Decidable (Compatible m m') :=
  inferInstanceAs (Decidable (∀ e ∈ m.entries, ∀ e' ∈ m'.entries, e.1 = e'.1 → e.2 = e'.2))

theorem compatible_iff {m m' : ObjMap β} : Compatible m m' ↔
    ∀ id b b', m.lookup id = some b → m'.lookup id = some b' → b = b' := by
  constructor
  · exact fun h id b b' hb hb' =>
      h ⟨id, b⟩ (AList.mem_lookup_iff.mp hb) ⟨id, b'⟩ (AList.mem_lookup_iff.mp hb') rfl
  · rintro h ⟨id, b⟩ he ⟨id', b'⟩ he' (rfl : id = id')
    exact h id b b' (AList.mem_lookup_iff.mpr he) (AList.mem_lookup_iff.mpr he')

theorem Compatible.symm {m m' : ObjMap β} (h : Compatible m m') : Compatible m' m :=
  fun e he e' he' hk => (h e' he' e he hk.symm).symm

theorem lookup_foldl_insert (l : List (Σ _ : ObjectID, β)) (hl : l.NodupKeys)
    (acc : ObjMap β) (id : ObjectID) :
    (l.foldl (fun acc e => acc.insert e.1 e.2) acc).lookup id =
      (l.dlookup id).or (acc.lookup id) := by
  induction l generalizing acc with
  | nil => rfl
  | cons e l ih =>
    obtain ⟨k, v⟩ := e
    obtain ⟨hk, hl⟩ := List.nodupKeys_cons.mp hl
    rw [List.foldl_cons, ih hl]
    by_cases hid : id = k
    · subst hid
      simp [List.dlookup_eq_none.mpr hk, List.dlookup_cons_eq]
    · rw [AList.lookup_insert_ne hid, List.dlookup_cons_ne _ _ hid]

/-- `extend` lets the incoming map win. -/
@[simp] theorem lookup_extend (l m : ObjMap β) (id : ObjectID) :
    (extend l m).lookup id = (m.lookup id).or (l.lookup id) :=
  lookup_foldl_insert m.entries m.nodupKeys l id

theorem Compatible.extend {l m m' : ObjMap β} (hl : Compatible l m') (hm : Compatible m m') :
    Compatible (extend l m) m' := by
  rw [compatible_iff] at *
  intro id b b' hb hb'
  rw [lookup_extend] at hb
  cases hmid : m.lookup id with
  | some c => rw [hmid] at hb; cases hb; exact hm id _ _ hmid hb'
  | none => rw [hmid] at hb; exact hl id b b' hb hb'

/-- Every value of a sequence of `extend`s comes from one of the maps. -/
theorem lookup_foldl_extend_source (l : ObjMap β) (ms : List (ObjMap β)) {id : ObjectID} {b : β}
    (h : (ms.foldl extend l).lookup id = some b) : ∃ m ∈ l :: ms, m.lookup id = some b := by
  induction ms generalizing l with
  | nil => exact ⟨l, List.mem_cons_self _ _, h⟩
  | cons m ms ih =>
    obtain ⟨m', hm', hb⟩ := ih (extend l m) h
    rcases List.mem_cons.mp hm' with rfl | hm'
    · rw [lookup_extend] at hb
      cases hmid : m.lookup id with
      | some c =>
        rw [hmid] at hb; cases hb
        exact ⟨m, List.mem_cons_of_mem _ (List.mem_cons_self _ _), hmid⟩
      | none => rw [hmid] at hb; exact ⟨_, List.mem_cons_self _ _, hb⟩
    · exact ⟨m', List.mem_cons_of_mem _ (List.mem_cons_of_mem _ hm'), hb⟩

/-- Under pairwise agreement, no value of any map is lost or altered. -/
theorem lookup_foldl_extend_of_mem (l : ObjMap β) (ms : List (ObjMap β))
    (hc : (l :: ms).Pairwise Compatible) {m : ObjMap β} (hm : m ∈ l :: ms) {id : ObjectID}
    {b : β} (hb : m.lookup id = some b) : (ms.foldl extend l).lookup id = some b := by
  induction ms generalizing l m with
  | nil => rwa [List.mem_singleton.mp hm] at hb
  | cons m₁ ms ih =>
    have hl := List.pairwise_cons.mp hc
    have hm₁ := List.pairwise_cons.mp hl.2
    have hc' : (extend l m₁ :: ms).Pairwise Compatible :=
      List.pairwise_cons.mpr ⟨fun m' hm' => (hl.1 m' (List.mem_cons_of_mem _ hm')).extend
        (hm₁.1 m' hm'), hm₁.2⟩
    rcases List.mem_cons.mp hm with hml | hm
    · rw [hml] at hb
      refine ih _ hc' (List.mem_cons_self _ _) ?_
      rw [lookup_extend]
      cases h₁ : m₁.lookup id with
      | some c =>
        exact congrArg some (compatible_iff.mp (hl.1 m₁ (List.mem_cons_self _ _)) id _ _ hb h₁).symm
      | none => exact hb
    rcases List.mem_cons.mp hm with hml | hm
    · rw [hml] at hb
      exact ih _ hc' (List.mem_cons_self _ _) (by rw [lookup_extend, hb]; rfl)
    · exact ih _ hc' (List.mem_cons_of_mem _ hm) hb

theorem saveLoadedChildObjects_foldl (s : TemporaryStore)
    (ms : List (ObjMap LoadedChildObjectMetadata)) :
    (ms.foldl saveLoadedChildObjects s).loadedChildObjects =
      ms.foldl extend s.loadedChildObjects := by
  induction ms generalizing s with
  | nil => rfl
  | cons m ms ih => exact ih _

/-- Loaded child objects saved by any number of VM runs whose maps agree with each other
and with the store's form their union: no entry is lost or altered, the order of the
runs does not matter, and saving a map twice is saving it once. -/
theorem saveLoadedChildObjects_union (s : TemporaryStore)
    (ms : List (ObjMap LoadedChildObjectMetadata))
    (hc : (s.loadedChildObjects :: ms).Pairwise Compatible) :
    (∀ id b, (ms.foldl saveLoadedChildObjects s).loadedChildObjects.lookup id = some b ↔
      ∃ m ∈ s.loadedChildObjects :: ms, m.lookup id = some b) ∧
    (∀ ms' : List (ObjMap LoadedChildObjectMetadata), ms'.Perm ms → ∀ id,
      (ms'.foldl saveLoadedChildObjects s).loadedChildObjects.lookup id =
        (ms.foldl saveLoadedChildObjects s).loadedChildObjects.lookup id) ∧
    (∀ m id, ((s.saveLoadedChildObjects m).saveLoadedChildObjects m).loadedChildObjects.lookup id =
      (s.saveLoadedChildObjects m).loadedChildObjects.lookup id) := by
  have union : ∀ ms' : List (ObjMap LoadedChildObjectMetadata), ms'.Perm ms → ∀ id b,
      (ms'.foldl saveLoadedChildObjects s).loadedChildObjects.lookup id = some b ↔
        ∃ m ∈ s.loadedChildObjects :: ms, m.lookup id = some b := by
    intro ms' hp id b
    have hc' := hc.perm (hp.symm.cons _) (fun h => h.symm)
    have hmem : ∀ m, m ∈ s.loadedChildObjects :: ms' ↔ m ∈ s.loadedChildObjects :: ms :=
      fun m => (hp.cons _).mem_iff
    rw [saveLoadedChildObjects_foldl]
    constructor
    · intro h
      obtain ⟨m, hm, hb⟩ := lookup_foldl_extend_source _ _ h
      exact ⟨m, (hmem m).mp hm, hb⟩
    · rintro ⟨m, hm, hb⟩
      exact lookup_foldl_extend_of_mem _ _ hc' ((hmem m).mpr hm) hb
  refine ⟨union ms (List.Perm.refl _), fun ms' hp id => ?_, fun m id => ?_⟩
  · exact Option.ext fun b => (union ms' hp id b).trans (union ms (List.Perm.refl _) id b).symm
  · simp only [saveLoadedChildObjects, lookup_extend]
    cases m.lookup id <;> rfl

theorem saveLoadedChildObjects_union_twice :
    let s := TemporaryStore.new .empty ⟨[]⟩ 0 ⟨0, 0, false⟩
    let m : ObjMap LoadedChildObjectMetadata := (∅ : ObjMap _).insert 7 ⟨1, 2, 3⟩
    (s.loadedChildObjects :: [m, m]).Pairwise Compatible ∧
      ([m, m].foldl saveLoadedChildObjects s).loadedChildObjects.lookup 7 = some ⟨1, 2, 3⟩ :=
  ⟨by decide, ((saveLoadedChildObjects_union _ _ (by decide)).1 7 _).mpr
    ⟨_, List.mem_cons_of_mem _ (List.mem_cons_self _ _), rfl⟩⟩

end SuiTemporaryStore
