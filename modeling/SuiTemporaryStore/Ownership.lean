import SuiTemporaryStore.Store

/-!
# The ownership check

`check_ownership_invariants` authenticates every modified object. The first loop of
`get_objects_to_authenticate` collects the authenticated roots, the non-gas inputs owned
by the sender or shared; the second pushes every other modified object that the store
says is owned by an object. The worklist loop then follows `ObjectOwner` links upward,
until it meets an authenticated object, an object it has covered, or an id the store does
not hold. The `Vec` worklist is a list whose head is its top.
-/
namespace SuiTemporaryStore

/-- The store holds `id`, and its owner is the object `parent`. -/
def BackingStore.ParentOf (store : BackingStore) (parent id : ObjectID) : Prop :=
  ∃ o, store.getObject id = some o ∧ o.owner = .objectOwner parent

/-- The owners the first loop accepts for an input that is not a gas coin. -/
def InputOwnerAccepted (sender : SuiAddress) (owner : Owner) : Prop :=
  owner = .addressOwner sender ∨ (∃ v, owner = .shared v) ∨ owner = .immutable

/-- The owners that make an input that is not a gas coin an authenticated root. -/
def RootOwner (sender : SuiAddress) (owner : Owner) : Prop :=
  owner = .addressOwner sender ∨ ∃ v, owner = .shared v

/-- The ids of the gas coins, `gas_objs` of `get_objects_to_authenticate`. -/
def GasCharger.gasObjectIds {σ : Type} (charger : GasCharger σ) (g : σ) : List ObjectID :=
  (charger.gasCoins g).map (·.1)

namespace TemporaryStore

/-- One input of the first loop of `get_objects_to_authenticate`. -/
def authenticateInput (sender : SuiAddress) (gasObjs : List ObjectID)
    (authenticatedObjs : Finset ObjectID) (input : Σ _ : ObjectID, Object) :
    Except Failure (Finset ObjectID) :=
  if input.1 ∈ gasObjs then .ok authenticatedObjs
  else match input.2.owner with
    | .addressOwner a =>
      if sender = a then .ok (insert input.1 authenticatedObjs)
      else .error (.panic "Input object not owned by sender")
    | .shared _ => .ok (insert input.1 authenticatedObjs)
    | .immutable => .ok authenticatedObjs
    | .objectOwner _ => .error (.panic ("internal error: entered unreachable code: " ++
        "Input objects must be address owned, shared, or immutable"))

/-- One id of `objects_modified_at` in the second loop of `get_objects_to_authenticate`:
an object owned by an object is pushed; an immutable one must be a system package
upgraded at an epoch change. -/
def classifyModified (s : TemporaryStore) (isEpochChange : Bool)
    (isSystemPackage : ObjectID → Bool) (gasObjs : List ObjectID)
    (authenticatedObjs : Finset ObjectID) (objsToAuthenticate : List ObjectID)
    (id : ObjectID) : Except Failure (List ObjectID) :=
  if id ∈ authenticatedObjs ∨ id ∈ gasObjs then .ok objsToAuthenticate
  else match s.store.getObject id with
    | none => .error (.panic s!"Modified object must exist in the store: ID = {id}")
    | some oldObj =>
      match oldObj.owner with
      | .objectOwner _ => .ok (id :: objsToAuthenticate)
      | .addressOwner _ | .shared _ => .error (.panic
          "internal error: entered unreachable code: Should already be in authenticated_objs")
      | .immutable =>
        if !isEpochChange then .error (.panic ("Immutable objects cannot be written, " ++
          "except for Sui Framework/Move stdlib upgrades at epoch change boundaries"))
        else if !isSystemPackage id then .error (.panic "Only system packages can be upgraded")
        else .ok objsToAuthenticate

/-- `get_objects_to_authenticate`: the worklist and the authenticated roots.
`isSystemPackage` is `is_system_package`, whose definition is not in the repository. -/
def getObjectsToAuthenticate {σ : Type} (s : TemporaryStore) (sender : SuiAddress)
    (charger : GasCharger σ) (g : σ) (isEpochChange : Bool)
    (isSystemPackage : ObjectID → Bool) : Except Failure (List ObjectID × Finset ObjectID) := do
  let gasObjs := charger.gasObjectIds g
  let authenticatedObjs ← s.inputObjects.entries.foldlM (authenticateInput sender gasObjs) ∅
  let objsToAuthenticate ← s.executionResults.objectsModifiedAt.keys.foldlM
    (s.classifyModified isEpochChange isSystemPackage gasObjs authenticatedObjs) []
  pure (objsToAuthenticate, authenticatedObjs)

/-- What the second loop accepts of a modified object that is neither an authenticated
root nor a gas coin: an owner that is an object, or, at an epoch change, a system
package. -/
def ModifiedOwnerAccepted (isEpochChange : Bool) (isSystemPackage : ObjectID → Bool)
    (id : ObjectID) (owner : Owner) : Prop :=
  (∃ p, owner = .objectOwner p) ∨
    owner = .immutable ∧ isEpochChange = true ∧ isSystemPackage id = true

/-- An authenticated root: an input that is not a gas coin, owned by the sender or
shared. -/
def IsAuthenticatedRoot (s : TemporaryStore) (sender : SuiAddress) (gasObjs : List ObjectID)
    (id : ObjectID) : Prop :=
  id ∉ gasObjs ∧ ∃ o, s.inputObjects.lookup id = some o ∧ RootOwner sender o.owner

section Phases

variable {sender : SuiAddress} {gasObjs : List ObjectID}

theorem authenticateInput_ok {A A' : Finset ObjectID} {e : Σ _ : ObjectID, Object}
    (h : authenticateInput sender gasObjs A e = .ok A') :
    (e.1 ∉ gasObjs → InputOwnerAccepted sender e.2.owner) ∧
    ∀ id, id ∈ A' ↔ id ∈ A ∨ id = e.1 ∧ e.1 ∉ gasObjs ∧ RootOwner sender e.2.owner := by
  obtain ⟨id, ⟨_, _, _, owner, _, _, _⟩⟩ := e
  by_cases hg : id ∈ gasObjs
  · simp only [authenticateInput, hg, if_true, Except.ok.injEq] at h
    subst h
    simp [hg]
  · cases owner with
    | addressOwner a =>
      by_cases ha : sender = a
      · subst ha
        simp only [authenticateInput, hg, if_false, if_true, Except.ok.injEq] at h
        subst h
        simp [hg, InputOwnerAccepted, RootOwner, or_comm]
      · simp [authenticateInput, hg, ha] at h
    | shared v =>
      simp only [authenticateInput, hg, if_false, Except.ok.injEq] at h
      subst h
      simp [hg, InputOwnerAccepted, RootOwner, or_comm]
    | immutable =>
      simp only [authenticateInput, hg, if_false, Except.ok.injEq] at h
      subst h
      simp [InputOwnerAccepted, RootOwner]
    | objectOwner p => simp [authenticateInput, hg] at h

theorem authenticateInput_of {A : Finset ObjectID} {e : Σ _ : ObjectID, Object}
    (h : e.1 ∉ gasObjs → InputOwnerAccepted sender e.2.owner) :
    ∃ A', authenticateInput sender gasObjs A e = .ok A' := by
  obtain ⟨id, ⟨_, _, _, owner, _, _, _⟩⟩ := e
  by_cases hg : id ∈ gasObjs
  · exact ⟨A, by simp [authenticateInput, hg]⟩
  · rcases h hg with ho | ⟨v, ho⟩ | ho <;> dsimp only at ho <;> subst ho <;>
      simp [authenticateInput, hg]

/-- The first loop of `get_objects_to_authenticate` over any list of inputs: it does not
panic exactly when every input that is not a gas coin has an accepted owner, and it adds
the inputs that are authenticated roots. -/
theorem foldlM_authenticateInput (es : List (Σ _ : ObjectID, Object)) (A : Finset ObjectID) :
    ((∃ A', es.foldlM (authenticateInput sender gasObjs) A = .ok A') ↔
      ∀ e ∈ es, e.1 ∉ gasObjs → InputOwnerAccepted sender e.2.owner) ∧
    ∀ A', es.foldlM (authenticateInput sender gasObjs) A = .ok A' →
      ∀ id, id ∈ A' ↔ id ∈ A ∨ ∃ e ∈ es, e.1 = id ∧ e.1 ∉ gasObjs ∧ RootOwner sender e.2.owner := by
  induction es generalizing A with
  | nil =>
    refine ⟨⟨fun _ e he => absurd he (List.not_mem_nil _), fun _ => ⟨A, rfl⟩⟩, ?_⟩
    rintro A' ⟨⟩ id
    exact ⟨.inl, fun h => h.resolve_right fun ⟨_, he, _⟩ => List.not_mem_nil _ he⟩
  | cons e es ih =>
    refine ⟨⟨fun ⟨A', h⟩ => ?_, fun h => ?_⟩, fun A' h => ?_⟩
    · rw [List.foldlM_cons] at h
      obtain ⟨A₁, h₁, h⟩ := bind_eq_ok.mp h
      intro e' he'
      rcases List.mem_cons.mp he' with rfl | he'
      · exact (authenticateInput_ok h₁).1
      · exact (ih A₁).1.mp ⟨A', h⟩ e' he'
    · obtain ⟨A₁, h₁⟩ := @authenticateInput_of sender gasObjs A e (h e (List.mem_cons_self _ _))
      obtain ⟨A', h'⟩ := (ih A₁).1.mpr fun e' he' => h e' (List.mem_cons_of_mem _ he')
      exact ⟨A', by rw [List.foldlM_cons, h₁]; exact h'⟩
    · rw [List.foldlM_cons] at h
      obtain ⟨A₁, h₁, h⟩ := bind_eq_ok.mp h
      intro id
      rw [(ih A₁).2 A' h id, (authenticateInput_ok h₁).2 id]
      constructor
      · rintro ((hA | ⟨rfl, hg, hr⟩) | ⟨e', he', rfl, hg, hr⟩)
        exacts [.inl hA, .inr ⟨e, List.mem_cons_self _ _, rfl, hg, hr⟩,
          .inr ⟨e', List.mem_cons_of_mem _ he', rfl, hg, hr⟩]
      · rintro (hA | ⟨e', he', rfl, hg, hr⟩)
        · exact .inl (.inl hA)
        rcases List.mem_cons.mp he' with rfl | he'
        exacts [.inl (.inr ⟨rfl, hg, hr⟩), .inr ⟨e', he', rfl, hg, hr⟩]

variable {s : TemporaryStore} {isEpochChange : Bool} {isSystemPackage : ObjectID → Bool}
  {A : Finset ObjectID}

theorem classifyModified_ok {S S' : List ObjectID} {id : ObjectID}
    (h : s.classifyModified isEpochChange isSystemPackage gasObjs A S id = .ok S') :
    (id ∉ A → id ∉ gasObjs → ∃ o, s.store.getObject id = some o ∧
      ModifiedOwnerAccepted isEpochChange isSystemPackage id o.owner) ∧
    ∀ y, y ∈ S' ↔ y ∈ S ∨ y = id ∧ id ∉ A ∧ id ∉ gasObjs ∧ ∃ p, s.store.ParentOf p id := by
  unfold classifyModified at h
  by_cases hs : id ∈ A ∨ id ∈ gasObjs
  · rw [if_pos hs, Except.ok.injEq] at h
    subst h
    refine ⟨fun hA hg => (hs.elim hA hg).elim, fun y => ?_⟩
    simp only [iff_self_or]
    rintro ⟨-, hA, hg, -⟩
    exact (hs.elim hA hg).elim
  rw [if_neg hs] at h
  obtain ⟨hA, hg⟩ := not_or.mp hs
  cases ho : s.store.getObject id with
  | none => rw [ho] at h; cases h
  | some o =>
    rw [ho] at h
    dsimp only at h
    cases hown : o.owner with
    | objectOwner p =>
      rw [hown, Except.ok.injEq] at h
      subst h
      refine ⟨fun _ _ => ⟨o, rfl, .inl ⟨p, hown⟩⟩, fun y => ?_⟩
      rw [List.mem_cons]
      exact or_comm.trans (or_congr_right ⟨fun h => ⟨h, hA, hg, p, o, ho, hown⟩, fun h => h.1⟩)
    | addressOwner a => rw [hown] at h; cases h
    | shared v => rw [hown] at h; cases h
    | immutable =>
      rw [hown] at h
      cases he : isEpochChange <;> cases hp : isSystemPackage id <;>
        simp only [he, hp, Bool.not_true, Bool.not_false, if_true, if_false,
          Bool.false_eq_true, reduceCtorEq, Except.ok.injEq] at h
      subst h
      refine ⟨fun _ _ => ⟨o, rfl, .inr ⟨hown, rfl, hp⟩⟩, fun y => ?_⟩
      simp only [iff_self_or]
      rintro ⟨-, -, -, p, o', ho', hown'⟩
      rw [ho, Option.some_inj] at ho'
      subst ho'
      rw [hown] at hown'
      cases hown'

theorem classifyModified_of {S : List ObjectID} {id : ObjectID}
    (h : id ∉ A → id ∉ gasObjs → ∃ o, s.store.getObject id = some o ∧
      ModifiedOwnerAccepted isEpochChange isSystemPackage id o.owner) :
    ∃ S', s.classifyModified isEpochChange isSystemPackage gasObjs A S id = .ok S' := by
  unfold classifyModified
  by_cases hs : id ∈ A ∨ id ∈ gasObjs
  · exact ⟨S, if_pos hs⟩
  rw [if_neg hs]
  obtain ⟨hA, hg⟩ := not_or.mp hs
  obtain ⟨o, ho, ⟨p, hp⟩ | ⟨hi, he, hsys⟩⟩ := h hA hg
  · exact ⟨_, by rw [ho]; dsimp only; rw [hp]⟩
  · exact ⟨S, by rw [ho]; dsimp only; rw [hi]; simp [he, hsys]⟩

/-- The second loop of `get_objects_to_authenticate` over any list of ids: it does not
panic exactly when every id that is neither authenticated nor a gas coin has an accepted
owner in the store, and it pushes those of them the store says an object owns. -/
theorem foldlM_classifyModified (ks : List ObjectID) (S : List ObjectID) :
    ((∃ S', ks.foldlM (s.classifyModified isEpochChange isSystemPackage gasObjs A) S =
        .ok S') ↔
      ∀ id ∈ ks, id ∉ A → id ∉ gasObjs → ∃ o, s.store.getObject id = some o ∧
        ModifiedOwnerAccepted isEpochChange isSystemPackage id o.owner) ∧
    ∀ S', ks.foldlM (s.classifyModified isEpochChange isSystemPackage gasObjs A) S = .ok S' →
      ∀ y, y ∈ S' ↔ y ∈ S ∨ y ∈ ks ∧ y ∉ A ∧ y ∉ gasObjs ∧ ∃ p, s.store.ParentOf p y := by
  induction ks generalizing S with
  | nil =>
    refine ⟨⟨fun _ id hid => absurd hid (List.not_mem_nil _), fun _ => ⟨S, rfl⟩⟩, ?_⟩
    rintro S' ⟨⟩ y
    exact ⟨.inl, fun h => h.resolve_right fun ⟨hy, _⟩ => List.not_mem_nil _ hy⟩
  | cons k ks ih =>
    refine ⟨⟨fun ⟨S', h⟩ => ?_, fun h => ?_⟩, fun S' h => ?_⟩
    · rw [List.foldlM_cons] at h
      obtain ⟨S₁, h₁, h⟩ := bind_eq_ok.mp h
      intro id hid
      rcases List.mem_cons.mp hid with rfl | hid
      · exact (classifyModified_ok h₁).1
      · exact (ih S₁).1.mp ⟨S', h⟩ id hid
    · obtain ⟨S₁, h₁⟩ := @classifyModified_of gasObjs s isEpochChange isSystemPackage A S k
        (h k (List.mem_cons_self _ _))
      obtain ⟨S', h'⟩ := (ih S₁).1.mpr fun id hid => h id (List.mem_cons_of_mem _ hid)
      exact ⟨S', by rw [List.foldlM_cons, h₁]; exact h'⟩
    · rw [List.foldlM_cons] at h
      obtain ⟨S₁, h₁, h⟩ := bind_eq_ok.mp h
      intro y
      rw [(ih S₁).2 S' h y, (classifyModified_ok h₁).2 y, List.mem_cons]
      constructor
      · rintro ((hS | ⟨rfl, hr⟩) | ⟨hy, hr⟩)
        exacts [.inl hS, .inr ⟨.inl rfl, hr⟩, .inr ⟨.inr hy, hr⟩]
      · rintro (hS | ⟨rfl | hy, hr⟩)
        exacts [.inl (.inl hS), .inl (.inr ⟨rfl, hr⟩), .inr ⟨hy, hr⟩]

end Phases

section Spec

variable {σ : Type} {s : TemporaryStore} {sender : SuiAddress} {charger : GasCharger σ} {g : σ}
  {isEpochChange : Bool} {isSystemPackage : ObjectID → Bool}

/-- The first loop authenticates exactly the roots. -/
theorem foldlM_authenticateInput_roots {gasObjs : List ObjectID} {A : Finset ObjectID}
    (h : s.inputObjects.entries.foldlM (authenticateInput sender gasObjs) ∅ = .ok A)
    (id : ObjectID) : id ∈ A ↔ s.IsAuthenticatedRoot sender gasObjs id := by
  rw [(foldlM_authenticateInput _ ∅).2 A h id, IsAuthenticatedRoot]
  simp only [Finset.not_mem_empty, false_or]
  constructor
  · rintro ⟨⟨id, o⟩, he, rfl, hg, hr⟩
    exact ⟨hg, o, AList.mem_lookup_iff.mpr he, hr⟩
  · rintro ⟨hg, o, ho, hr⟩
    exact ⟨⟨id, o⟩, AList.mem_lookup_iff.mp ho, rfl, hg, hr⟩

/-- `get_objects_to_authenticate` does not panic exactly when (a) every input that is not a
gas coin has an accepted owner, and (b) every modified id that is neither a gas coin nor an
authenticated root has an accepted owner in the store. -/
theorem getObjectsToAuthenticate_ok_iff :
    (∃ r, s.getObjectsToAuthenticate sender charger g isEpochChange isSystemPackage = .ok r) ↔
      (∀ id o, s.inputObjects.lookup id = some o → id ∉ charger.gasObjectIds g →
        InputOwnerAccepted sender o.owner) ∧
      ∀ id ∈ s.executionResults.objectsModifiedAt, id ∉ charger.gasObjectIds g →
        ¬ s.IsAuthenticatedRoot sender (charger.gasObjectIds g) id →
        ∃ o, s.store.getObject id = some o ∧
          ModifiedOwnerAccepted isEpochChange isSystemPackage id o.owner := by
  have hinputs : (∀ e ∈ s.inputObjects.entries, e.1 ∉ charger.gasObjectIds g →
      InputOwnerAccepted sender e.2.owner) ↔ ∀ id o, s.inputObjects.lookup id = some o →
      id ∉ charger.gasObjectIds g → InputOwnerAccepted sender o.owner :=
    ⟨fun h id o ho => h ⟨id, o⟩ (AList.mem_lookup_iff.mp ho),
      fun h e he => h e.1 e.2 (AList.mem_lookup_iff.mpr he)⟩
  constructor
  · rintro ⟨r, h⟩
    obtain ⟨A, hA, h⟩ := bind_eq_ok.mp h
    obtain ⟨S, hS, -⟩ := bind_eq_ok.mp h
    refine ⟨hinputs.mp ((foldlM_authenticateInput _ ∅).1.mp ⟨A, hA⟩), fun id hid hg hr => ?_⟩
    exact (foldlM_classifyModified _ []).1.mp ⟨S, hS⟩ id (AList.mem_keys.mpr hid)
      (mt (foldlM_authenticateInput_roots hA id).mp hr) hg
  · rintro ⟨ha, hb⟩
    obtain ⟨A, hA⟩ := (foldlM_authenticateInput _ ∅).1.mpr (hinputs.mpr ha)
    obtain ⟨S, hS⟩ := (foldlM_classifyModified _ []).1.mpr fun id hid hnA hg =>
      hb id (AList.mem_keys.mp hid) hg (mt (foldlM_authenticateInput_roots hA id).mpr hnA)
    exact ⟨(S, A), by simp only [getObjectsToAuthenticate, hA, bind, Except.bind, hS]; rfl⟩

/-- What `get_objects_to_authenticate` returns: the authenticated roots, and the modified ids
that are neither gas coins nor roots and that the store says an object owns. -/
theorem getObjectsToAuthenticate_eq_ok {S : List ObjectID} {A : Finset ObjectID}
    (h : s.getObjectsToAuthenticate sender charger g isEpochChange isSystemPackage = .ok (S, A)) :
    (∀ id, id ∈ A ↔ s.IsAuthenticatedRoot sender (charger.gasObjectIds g) id) ∧
    ∀ y, y ∈ S ↔ y ∈ s.executionResults.objectsModifiedAt ∧
      ¬ s.IsAuthenticatedRoot sender (charger.gasObjectIds g) y ∧
      y ∉ charger.gasObjectIds g ∧ ∃ p, s.store.ParentOf p y := by
  obtain ⟨A', hA, h⟩ := bind_eq_ok.mp h
  obtain ⟨S', hS, h⟩ := bind_eq_ok.mp h
  cases h
  refine ⟨foldlM_authenticateInput_roots hA, fun y => ?_⟩
  rw [(foldlM_classifyModified _ []).2 S hS y, foldlM_authenticateInput_roots hA y,
    AList.mem_keys]
  simp only [List.not_mem_nil, false_or]

end Spec


end TemporaryStore

/-- The state of the worklist loop of `check_ownership_invariants`. -/
structure AuthState where
  objectsToAuthenticate : List ObjectID
  authenticatedObjects : Finset ObjectID
  covered : ObjMap ObjectID

namespace AuthState

/-- The body of the worklist loop for the id `toAuthenticate` it popped. An id the store
does not hold is skipped; an object owned by an object is authenticated if its parent
is, and else its parent is pushed unless covered; any other owner is a root that was not
authenticated. -/
def authenticateStep (store : BackingStore) (toAuthenticate : ObjectID) (st : AuthState) :
    Except Failure AuthState :=
  match store.getObject toAuthenticate with
  | none => .ok st
  | some oldObj =>
    match oldObj.owner with
    | .objectOwner parent =>
      let st := if parent ∈ st.authenticatedObjects then
          { st with authenticatedObjects := insert toAuthenticate st.authenticatedObjects }
        else if parent ∉ st.covered then
          { st with objectsToAuthenticate := parent :: st.objectsToAuthenticate }
        else st
      .ok { st with covered := st.covered.insert toAuthenticate parent }
    | owner =>
      let ownerText := reprStr owner
      let coveredText := reprStr (st.covered.entries.map fun e => (e.1, e.2))
      .error (.panic (s!"Unauthenticated root at {toAuthenticate} with owner {ownerText}\n" ++
        s!"Potentially covering objects in: {coveredText}"))

/-- The worklist loop, run for at most `fuel` iterations; `none` when the fuel runs out. -/
def authenticateLoop (store : BackingStore) : Nat → AuthState → Option (Except Failure Unit)
  | 0, _ => none
  | fuel + 1, st =>
    match st.objectsToAuthenticate with
    | [] => some (.ok ())
    | toAuthenticate :: rest =>
      match authenticateStep store toAuthenticate { st with objectsToAuthenticate := rest } with
      | .ok st' => authenticateLoop store fuel st'
      | .error e => some (.error e)

/-- The iterations the loop may take from the worklist `objectsToAuthenticate`: every
object of the store is popped at most twice, and every other pop is paid for by one of
those. -/
def worklistBound (store : BackingStore) (objectsToAuthenticate : List ObjectID) : Nat :=
  2 * objectsToAuthenticate.length + 2 * store.objects.entries.length + 1

end AuthState

namespace TemporaryStore

/-- `check_ownership_invariants`; `none` if the worklist loop has not ended within
`worklistBound`. -/
def checkOwnershipInvariants {σ : Type} (s : TemporaryStore) (sender : SuiAddress)
    (charger : GasCharger σ) (g : σ) (isEpochChange : Bool)
    (isSystemPackage : ObjectID → Bool) : Option (Except Failure Unit) :=
  match s.getObjectsToAuthenticate sender charger g isEpochChange isSystemPackage with
  | .error e => some (.error e)
  | .ok (objectsToAuthenticate, authenticatedObjects) =>
    AuthState.authenticateLoop s.store (AuthState.worklistBound s.store objectsToAuthenticate)
      ⟨objectsToAuthenticate, authenticatedObjects, ∅⟩

end TemporaryStore

end SuiTemporaryStore
