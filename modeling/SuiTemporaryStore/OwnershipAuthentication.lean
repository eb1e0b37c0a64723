import SuiTemporaryStore.OwnershipWorklist

/-!
# What the ownership check accepts

On a store whose `ObjectOwner` links form no cycle, `check_ownership_invariants` returns
`Ok` exactly when every input that is not a gas coin has an accepted owner, every other
modified object has an accepted owner in the store, and from every modified object owned
by an object the parent links reach an authenticated root, or an id the store does not
hold, before any object whose owner is not an object (`BackingStore.Rooted`).

The direction from the three conditions to `Ok` needs no acyclicity: every id on the
worklist is rooted and not a root, so no iteration panics, and the loop ends. The other
direction follows a run that returns `Ok` to its empty worklist: every id of the initial
worklist has been covered, each covered object's parent is authenticated, covered or
absent, and an induction along the parent links, well founded since the store is finite
and has no cycle, shows every covered object rooted.
-/
namespace SuiTemporaryStore

namespace BackingStore

/-- Following `ObjectOwner` parents from `id` through the store reaches an id `isRoot`
accepts, or an id the store does not hold, before any object whose owner is not an
object. -/
inductive Rooted (store : BackingStore) (isRoot : ObjectID → Prop) : ObjectID → Prop
  | root {id : ObjectID} : isRoot id → Rooted store isRoot id
  | absent {id : ObjectID} : store.getObject id = none → Rooted store isRoot id
  | parent {id p : ObjectID} : store.ParentOf p id → Rooted store isRoot p →
      Rooted store isRoot id

variable {store : BackingStore}

/-- A rooted object of the store that is not a root has a rooted parent. -/
theorem Rooted.parent_of_isSome {isRoot : ObjectID → Prop} {id : ObjectID}
    (h : store.Rooted isRoot id) (hr : ¬ isRoot id) (hs : (store.getObject id).isSome) :
    ∃ p, store.ParentOf p id ∧ store.Rooted isRoot p := by
  cases h with
  | root h => exact absurd h hr
  | absent h => simp [h] at hs
  | parent hp h => exact ⟨_, hp, h⟩

theorem acc_of_getObject_eq_none {id : ObjectID} (h : store.getObject id = none) :
    Acc store.ParentOf id :=
  Acc.intro id fun _ hp => absurd hp.isSome (by simp [h])

/-- On a store whose owner links form no cycle, an induction may go from an object to its
parent: the store holds finitely many objects. -/
theorem acc_parentOf (hacyclic : ∀ id, ¬ Relation.TransGen store.ParentOf id id)
    (id : ObjectID) : Acc store.ParentOf id := by
  let r : {x // x ∈ store.objects.keys} → {x // x ∈ store.objects.keys} → Prop :=
    fun a b => Relation.TransGen store.ParentOf a.1 b.1
  have : IsTrans _ r := ⟨fun _ _ _ => Relation.TransGen.trans⟩
  have : IsIrrefl _ r := ⟨fun a => hacyclic a.1⟩
  have hwf : WellFounded r := Finite.wellFounded_of_trans_of_irrefl r
  have hkeys : ∀ y, y ∈ store.objects.keys ↔ (store.getObject y).isSome := fun y =>
    AList.mem_keys.trans AList.lookup_isSome.symm
  by_cases hid : id ∈ store.objects.keys
  · refine @WellFounded.induction _ r hwf (fun b => Acc store.ParentOf b.1) ⟨id, hid⟩ fun b ih => ?_
    refine Acc.intro _ fun p hp => ?_
    cases hps : store.getObject p with
    | none => exact acc_of_getObject_eq_none hps
    | some _ => exact ih ⟨p, (hkeys p).mpr (by simp [hps])⟩ (.single hp)
  · exact acc_of_getObject_eq_none (Option.not_isSome_iff_eq_none.mp (mt (hkeys id).mpr hid))

/-- A store whose parent links go down a rank has no cycle. -/
theorem acyclic_of_rank (rank : ObjectID → Nat)
    (h : ∀ p id, store.ParentOf p id → rank p < rank id) (id : ObjectID) :
    ¬ Relation.TransGen store.ParentOf id id := by
  suffices ∀ a b, Relation.TransGen store.ParentOf a b → rank a < rank b from
    fun hid => Nat.lt_irrefl _ (this id id hid)
  intro a b hab
  induction hab with
  | single hp => exact h _ _ hp
  | tail _ hp ih => exact ih.trans (h _ _ hp)

end BackingStore

namespace AuthState

variable {store : BackingStore} {A : Finset ObjectID}

/-- What a run keeps toward the roots `A` and the initial worklist `S`: authenticated
objects are rooted, covered objects record their parents as `CoverInv` says, and every id
of `S` stays on the worklist until it is covered or found absent. -/
structure TraceInv (store : BackingStore) (A : Finset ObjectID) (S : List ObjectID)
    (st : AuthState) : Prop where
  rooted : ∀ x ∈ st.authenticatedObjects, store.Rooted (· ∈ A) x
  cover : CoverInv store st
  initial : ∀ y ∈ S, y ∈ st.objectsToAuthenticate ∨ y ∈ st.covered ∨ store.getObject y = none

theorem traceInv_init (S : List ObjectID) : TraceInv store A S ⟨S, A, ∅⟩ :=
  ⟨fun _ hx => .root hx, coverInv_init S A, fun _ hy => .inl hy⟩

theorem LoopStep.traceInv {S : List ObjectID} {st st' : AuthState} (h : LoopStep store st st')
    (hinv : TraceInv store A S st) : TraceInv store A S st' := by
  have hmono := h.mono
  have hcover := h.coverInv hinv.cover
  obtain ⟨x, rest, hs, hcases⟩ := h.cases
  rcases hcases with ⟨hx, rfl⟩ | ⟨p, hpx, hc, hcases⟩
  · refine ⟨hinv.rooted, hcover, fun y hy => ?_⟩
    rcases hinv.initial y hy with hy | hy | hy
    · rw [hs, List.mem_cons] at hy
      rcases hy with rfl | hy
      exacts [.inr (.inr hx), .inl hy]
    · exact .inr (.inl hy)
    · exact .inr (.inr hy)
  have hrest : ∀ y ∈ rest, y ∈ st'.objectsToAuthenticate := fun y hy => by
    rcases hcases with ⟨-, -, hstack⟩ | ⟨-, -, -, hstack⟩ | ⟨-, -, -, hstack⟩ <;> rw [hstack]
    exacts [hy, List.mem_cons_of_mem _ hy, hy]
  refine ⟨fun y hy => ?_, hcover, fun y hy => ?_⟩
  · rcases hcases with ⟨hp, ha, -⟩ | ⟨-, -, ha, -⟩ | ⟨-, -, ha, -⟩ <;> rw [ha] at hy
    · rcases Finset.mem_insert.mp hy with rfl | hy
      exacts [.parent hpx (hinv.rooted p hp), hinv.rooted y hy]
    all_goals exact hinv.rooted y hy
  · rcases hinv.initial y hy with hy | hy | hy
    · rw [hs, List.mem_cons] at hy
      rcases hy with rfl | hy
      · exact .inr (.inl (by rw [hc, AList.mem_insert]; exact .inl rfl))
      · exact .inl (hrest y hy)
    · exact .inr (.inl (hmono.2 y hy))
    · exact .inr (.inr hy)

/-- When the worklist is empty, every covered object is rooted. -/
theorem TraceInv.rooted_of_covered {S : List ObjectID} {st : AuthState}
    (hinv : TraceInv store A S st) (hnil : st.objectsToAuthenticate = [])
    (hacyclic : ∀ id, ¬ Relation.TransGen store.ParentOf id id) (y : ObjectID)
    (hy : y ∈ st.covered) : store.Rooted (· ∈ A) y := by
  induction BackingStore.acc_parentOf hacyclic y with
  | intro y _ ih =>
    obtain ⟨p, hp⟩ := Option.isSome_iff_exists.mp (AList.lookup_isSome.mpr hy)
    obtain ⟨hpy, hpcases⟩ := hinv.cover y p hp
    refine .parent hpy ?_
    rcases hpcases with hp | hp | hp | hp
    · exact hinv.rooted p hp
    · exact ih p hpy hp
    · exact .absent hp
    · rw [hnil] at hp; cases hp

/-- What a run keeps when every id of the worklist is rooted and is not a root: the roots
stay authenticated, and so does that property of the worklist. -/
structure AcceptInv (store : BackingStore) (A : Finset ObjectID) (st : AuthState) : Prop where
  roots : A ⊆ st.authenticatedObjects
  worklist : ∀ y ∈ st.objectsToAuthenticate, y ∉ A ∧ store.Rooted (· ∈ A) y

theorem LoopStep.acceptInv {st st' : AuthState} (h : LoopStep store st st')
    (hinv : AcceptInv store A st) : AcceptInv store A st' := by
  have hmono := h.mono
  obtain ⟨x, rest, hs, hcases⟩ := h.cases
  have hrest : ∀ y ∈ rest, y ∉ A ∧ store.Rooted (· ∈ A) y := fun y hy =>
    hinv.worklist y (by rw [hs]; exact List.mem_cons_of_mem _ hy)
  refine ⟨hinv.roots.trans hmono.1, ?_⟩
  rcases hcases with ⟨-, rfl⟩ | ⟨p, hpx, -, hcases⟩
  · exact hrest
  rcases hcases with ⟨-, -, hstack⟩ | ⟨hpa, -, -, hstack⟩ | ⟨-, -, -, hstack⟩ <;> rw [hstack]
  · exact hrest
  · -- the pushed parent is the parent of the rooted `x`, which is not a root
    obtain ⟨hxA, hx⟩ := hinv.worklist x (by rw [hs]; exact List.mem_cons_self _ _)
    obtain ⟨q, hqx, hq⟩ := hx.parent_of_isSome hxA hpx.isSome
    obtain rfl := hqx.unique hpx
    intro y hy
    rcases List.mem_cons.mp hy with rfl | hy
    exacts [⟨fun hA => hpa (hinv.roots hA), hq⟩, hrest y hy]
  · exact hrest

theorem AcceptInv.step_ne_error {st : AuthState} {x : ObjectID} {rest : List ObjectID}
    {e : Failure} (hinv : AcceptInv store A st) (hs : st.objectsToAuthenticate = x :: rest) :
    authenticateStep store x { st with objectsToAuthenticate := rest } ≠ .error e := by
  intro h
  obtain ⟨hx, hnone⟩ := authenticateStep_error h
  obtain ⟨hxA, hxr⟩ := hinv.worklist x (by rw [hs]; exact List.mem_cons_self _ _)
  obtain ⟨p, hpx, -⟩ := hxr.parent_of_isSome hxA hx
  exact hnone p hpx

/-- From a worklist of rooted ids that are not roots, the loop returns `Ok`. -/
theorem authenticateLoop_ok_of_rooted (S : List ObjectID)
    (hS : ∀ y ∈ S, y ∉ A ∧ store.Rooted (· ∈ A) y) :
    authenticateLoop store (worklistBound store S) ⟨S, A, ∅⟩ = some (.ok ()) := by
  have hinit : AcceptInv store A ⟨S, A, ∅⟩ := ⟨subset_rfl, hS⟩
  obtain ⟨r, hr⟩ := Option.isSome_iff_exists.mp (@authenticateLoop_isSome store
    (worklistBound store S) ⟨S, A, ∅⟩ (coverInv_init S A) (measure_init_lt S A))
  have hne := authenticateLoop_ne_error (AcceptInv store A) (fun _ _ hi h => h.acceptInv hi)
    (fun _ _ _ _ hi hs => hi.step_ne_error hs) (worklistBound store S) _ hinit
  rw [hr]
  cases r with
  | ok u => rfl
  | error e => exact absurd hr (hne e)

end AuthState

namespace TemporaryStore

/-- `check_ownership_invariants` on a store whose owner links form no cycle returns `Ok`
exactly when (a) every input that is not a gas coin is owned by the sender, shared or
immutable, (b) every modified id that is neither a gas coin nor an authenticated root is
in the store, owned by an object, or immutable at an epoch change as a system package, and
(c) every such id owned by an object is rooted: its parent links reach an authenticated
root or an id the store does not hold before any object whose owner is not an object. -/
theorem checkOwnershipInvariants_ok_iff {σ : Type} (s : TemporaryStore) (sender : SuiAddress)
    (charger : GasCharger σ) (g : σ) (isEpochChange : Bool) (isSystemPackage : ObjectID → Bool)
    (hacyclic : ∀ id, ¬ Relation.TransGen s.store.ParentOf id id) :
    s.checkOwnershipInvariants sender charger g isEpochChange isSystemPackage = some (.ok ()) ↔
      (∀ id o, s.inputObjects.lookup id = some o → id ∉ charger.gasObjectIds g →
        InputOwnerAccepted sender o.owner) ∧
      (∀ id ∈ s.executionResults.objectsModifiedAt, id ∉ charger.gasObjectIds g →
        ¬ s.IsAuthenticatedRoot sender (charger.gasObjectIds g) id →
        ∃ o, s.store.getObject id = some o ∧
          ModifiedOwnerAccepted isEpochChange isSystemPackage id o.owner) ∧
      ∀ id ∈ s.executionResults.objectsModifiedAt, id ∉ charger.gasObjectIds g →
        ¬ s.IsAuthenticatedRoot sender (charger.gasObjectIds g) id →
        (∃ p, s.store.ParentOf p id) →
        s.store.Rooted (s.IsAuthenticatedRoot sender (charger.gasObjectIds g)) id := by
  unfold checkOwnershipInvariants
  constructor
  · intro h
    cases hget : s.getObjectsToAuthenticate sender charger g isEpochChange isSystemPackage with
    | error e => rw [hget] at h; cases h
    | ok r =>
      obtain ⟨S, A⟩ := r
      rw [hget] at h
      obtain ⟨hA, hS⟩ := getObjectsToAuthenticate_eq_ok hget
      have hroot : (· ∈ A) = s.IsAuthenticatedRoot sender (charger.gasObjectIds g) :=
        funext fun id => propext (hA id)
      obtain ⟨ha, hb⟩ := getObjectsToAuthenticate_ok_iff.mp ⟨_, hget⟩
      refine ⟨ha, hb, fun id hid hg hr hp => hroot ▸ ?_⟩
      obtain ⟨st, hinv, hnil⟩ := AuthState.authenticateLoop_ok_inv (AuthState.TraceInv s.store A S)
        (fun _ _ hi h => h.traceInv hi) _ _ (AuthState.traceInv_init S) h
      obtain ⟨p, hpid⟩ := hp
      rcases hinv.initial id ((hS id).mpr ⟨hid, hr, hg, p, hpid⟩) with hy | hy | hy
      · rw [hnil] at hy; cases hy
      · exact hinv.rooted_of_covered hnil hacyclic id hy
      · exact absurd hpid.isSome (by simp [hy])
  · rintro ⟨ha, hb, hc⟩
    obtain ⟨⟨S, A⟩, hget⟩ := getObjectsToAuthenticate_ok_iff.mpr ⟨ha, hb⟩
    rw [hget]
    obtain ⟨hA, hS⟩ := getObjectsToAuthenticate_eq_ok hget
    have hroot : (· ∈ A) = s.IsAuthenticatedRoot sender (charger.gasObjectIds g) :=
      funext fun id => propext (hA id)
    refine AuthState.authenticateLoop_ok_of_rooted S fun y hy => ?_
    obtain ⟨hid, hr, hg, hp⟩ := (hS y).mp hy
    exact ⟨mt (hA y).mp hr, hroot ▸ hc y hid hg hr hp⟩

/-- The shared input `1`, and the object `2` it owns. -/
def sharedParent : Object := ⟨1, 0, 0, .shared 0, 0, 0, .move "" []⟩

def ownedChild : Object := ⟨2, 0, 0, .objectOwner 1, 0, 0, .move "" []⟩

/-- The store of `sharedParent` and `ownedChild`. -/
def chainStore : BackingStore :=
  ⟨((∅ : ObjMap Object).insert 1 sharedParent).insert 2 ownedChild,
    fun _ _ => none, fun _ => none, fun _ _ _ => none⟩

theorem chainStore_parentOf_lt {p id : ObjectID} (h : chainStore.ParentOf p id) : p < id := by
  obtain ⟨o, ho, hown⟩ := h
  have hid : id ∈ chainStore.objects.keys :=
    AList.mem_keys.mpr (AList.lookup_isSome.mp (by rw [BackingStore.getObject] at ho; simp [ho]))
  have hkeys : chainStore.objects.keys = [2, 1] := rfl
  rw [hkeys, List.mem_pair] at hid
  rcases hid with rfl | rfl
  · rw [show chainStore.getObject 2 = some ownedChild from rfl, Option.some_inj] at ho
    subst ho
    cases hown
    decide
  · rw [show chainStore.getObject 1 = some sharedParent from rfl, Option.some_inj] at ho
    subst ho
    cases hown

/-- A transaction on the shared input `1` that modifies its child `2`: the store has no
cycle, and the ownership check is characterised there. -/
theorem checkOwnershipInvariants_ok_iff_chain :
    let s := (new chainStore ⟨[(true, sharedParent)]⟩ 0 ⟨0, 0, false⟩).mutateChildObject
      ownedChild ownedChild
    let charger : GasCharger Unit := ⟨fun _ => none, fun _ => [], fun g _ _ => (0, g)⟩
    (∀ id, ¬ Relation.TransGen s.store.ParentOf id id) ∧
    (s.checkOwnershipInvariants 7 charger () false (fun _ => false) = some (.ok ()) ↔
      (∀ id o, s.inputObjects.lookup id = some o → id ∉ charger.gasObjectIds () →
        InputOwnerAccepted 7 o.owner) ∧
      (∀ id ∈ s.executionResults.objectsModifiedAt, id ∉ charger.gasObjectIds () →
        ¬ s.IsAuthenticatedRoot 7 (charger.gasObjectIds ()) id →
        ∃ o, s.store.getObject id = some o ∧
          ModifiedOwnerAccepted false (fun _ => false) id o.owner) ∧
      ∀ id ∈ s.executionResults.objectsModifiedAt, id ∉ charger.gasObjectIds () →
        ¬ s.IsAuthenticatedRoot 7 (charger.gasObjectIds ()) id →
        (∃ p, s.store.ParentOf p id) →
        s.store.Rooted (s.IsAuthenticatedRoot 7 (charger.gasObjectIds ())) id) :=
  let hacyclic := BackingStore.acyclic_of_rank id fun _ _ => chainStore_parentOf_lt
  ⟨hacyclic, checkOwnershipInvariants_ok_iff _ 7 _ () false (fun _ => false) hacyclic⟩

end TemporaryStore

end SuiTemporaryStore
