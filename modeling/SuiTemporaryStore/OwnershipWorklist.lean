import SuiTemporaryStore.Ownership

/-!
# Runs of the ownership worklist

One iteration of the loop of `check_ownership_invariants` skips an id the store does not
hold, or covers a popped object owned by an object; it panics only at an object with any
other owner (`authenticateStep_ok`, `authenticateStep_error`). The run lemmas carry an
invariant of the iterations to the end of the loop.

The loop ends on every store, also when its owner links form cycles or name ids the
store does not hold. Each iteration lowers the measure
  Σ over the worklist of (2 per id the store holds, 1 per absent id)
    + 2 · (ids the store holds that are not yet covered),
because an object popped a second time, already covered, can only push an absent parent:
the parent it recorded is authenticated, covered, absent, or was pushed on top of it and
popped at the very next iteration (`CoverInv`).
-/
namespace SuiTemporaryStore

namespace BackingStore

variable {store : BackingStore}

/-- An object has one parent. -/
theorem ParentOf.unique {p q x : ObjectID} (hp : store.ParentOf p x) (hq : store.ParentOf q x) :
    p = q := by
  obtain ⟨o, ho, hop⟩ := hp
  obtain ⟨o', ho', hoq⟩ := hq
  rw [ho, Option.some_inj] at ho'
  subst ho'
  rw [hop] at hoq
  exact Owner.objectOwner.inj hoq

theorem ParentOf.isSome {p x : ObjectID} (h : store.ParentOf p x) : (store.getObject x).isSome := by
  obtain ⟨o, ho, -⟩ := h
  simp [ho]

end BackingStore

namespace AuthState

variable {store : BackingStore}

/-- What one iteration does with the popped id `x`: it skips an id the store does not
hold; otherwise `x` is owned by an object `p`, is covered by `p`, and is authenticated if
`p` is, or else `p` is pushed unless it is covered. -/
theorem authenticateStep_ok {x : ObjectID} {st st' : AuthState}
    (h : authenticateStep store x st = .ok st') :
    store.getObject x = none ∧ st' = st ∨
    ∃ p, store.ParentOf p x ∧ st'.covered = st.covered.insert x p ∧
      (p ∈ st.authenticatedObjects ∧
          st'.authenticatedObjects = insert x st.authenticatedObjects ∧
          st'.objectsToAuthenticate = st.objectsToAuthenticate ∨
        p ∉ st.authenticatedObjects ∧ p ∉ st.covered ∧
          st'.authenticatedObjects = st.authenticatedObjects ∧
          st'.objectsToAuthenticate = p :: st.objectsToAuthenticate ∨
        p ∉ st.authenticatedObjects ∧ p ∈ st.covered ∧
          st'.authenticatedObjects = st.authenticatedObjects ∧
          st'.objectsToAuthenticate = st.objectsToAuthenticate) := by
  unfold authenticateStep at h
  cases ho : store.getObject x with
  | none =>
    rw [ho, Except.ok.injEq] at h
    exact .inl ⟨rfl, h.symm⟩
  | some o =>
    rw [ho] at h
    dsimp only at h
    cases hown : o.owner with
    | objectOwner p =>
      rw [hown, Except.ok.injEq] at h
      subst h
      refine .inr ⟨p, ⟨o, ho, hown⟩, ?_⟩
      by_cases ha : p ∈ st.authenticatedObjects
      · simp [ha]
      · by_cases hc : p ∈ st.covered <;> simp [ha, hc]
    | addressOwner a => rw [hown] at h; cases h
    | shared v => rw [hown] at h; cases h
    | immutable => rw [hown] at h; cases h

/-- One iteration panics only at an object of the store whose owner is not an object. -/
theorem authenticateStep_error {x : ObjectID} {st : AuthState} {e : Failure}
    (h : authenticateStep store x st = .error e) :
    (store.getObject x).isSome ∧ ∀ p, ¬ store.ParentOf p x := by
  unfold authenticateStep at h
  cases ho : store.getObject x with
  | none => rw [ho] at h; cases h
  | some o =>
    refine ⟨rfl, fun p ⟨o', ho', hown'⟩ => ?_⟩
    rw [ho, Option.some_inj] at ho'
    subst ho'
    rw [ho] at h
    dsimp only at h
    rw [hown'] at h
    cases h

/-- One iteration of the loop from `st`: it pops `x` and the body returns `st'`. -/
def LoopStep (store : BackingStore) (st st' : AuthState) : Prop :=
  ∃ x rest, st.objectsToAuthenticate = x :: rest ∧
    authenticateStep store x { st with objectsToAuthenticate := rest } = .ok st'

/-- `authenticateStep_ok` for one iteration of the loop, on the state before the pop. -/
theorem LoopStep.cases {st st' : AuthState} (h : LoopStep store st st') :
    ∃ x rest, st.objectsToAuthenticate = x :: rest ∧
      (store.getObject x = none ∧ st' = ⟨rest, st.authenticatedObjects, st.covered⟩ ∨
      ∃ p, store.ParentOf p x ∧ st'.covered = st.covered.insert x p ∧
        (p ∈ st.authenticatedObjects ∧
            st'.authenticatedObjects = insert x st.authenticatedObjects ∧
            st'.objectsToAuthenticate = rest ∨
          p ∉ st.authenticatedObjects ∧ p ∉ st.covered ∧
            st'.authenticatedObjects = st.authenticatedObjects ∧
            st'.objectsToAuthenticate = p :: rest ∨
          p ∉ st.authenticatedObjects ∧ p ∈ st.covered ∧
            st'.authenticatedObjects = st.authenticatedObjects ∧
            st'.objectsToAuthenticate = rest)) := by
  obtain ⟨x, rest, hs, h⟩ := h
  exact ⟨x, rest, hs, authenticateStep_ok h⟩

/-- Iterations only add authenticated and covered objects. -/
theorem LoopStep.mono {st st' : AuthState} (h : LoopStep store st st') :
    st.authenticatedObjects ⊆ st'.authenticatedObjects ∧
      ∀ y, y ∈ st.covered → y ∈ st'.covered := by
  obtain ⟨x, rest, -, ⟨-, rfl⟩ | ⟨p, -, hc, hcases⟩⟩ := h.cases
  · exact ⟨subset_rfl, fun _ hy => hy⟩
  refine ⟨?_, fun y hy => by rw [hc, AList.mem_insert]; exact .inr hy⟩
  rcases hcases with ⟨-, ha, -⟩ | ⟨-, -, ha, -⟩ | ⟨-, -, ha, -⟩ <;> rw [ha]
  exact Finset.subset_insert _ _

theorem authenticateLoop_nil (fuel : Nat) {st : AuthState} (h : st.objectsToAuthenticate = []) :
    authenticateLoop store (fuel + 1) st = some (.ok ()) := by
  simp only [authenticateLoop, h]

theorem authenticateLoop_step_ok (fuel : Nat) {st st' : AuthState} {x : ObjectID}
    {rest : List ObjectID} (h : st.objectsToAuthenticate = x :: rest)
    (hstep : authenticateStep store x { st with objectsToAuthenticate := rest } = .ok st') :
    authenticateLoop store (fuel + 1) st = authenticateLoop store fuel st' := by
  simp only [authenticateLoop, h, hstep]

theorem authenticateLoop_step_error (fuel : Nat) {st : AuthState} {x : ObjectID}
    {rest : List ObjectID} {e : Failure} (h : st.objectsToAuthenticate = x :: rest)
    (hstep : authenticateStep store x { st with objectsToAuthenticate := rest } = .error e) :
    authenticateLoop store (fuel + 1) st = some (.error e) := by
  simp only [authenticateLoop, h, hstep]

section Runs

variable (I : AuthState → Prop)

/-- A run that returns `Ok` stops at an empty worklist, in a state that keeps every
invariant of the iterations. -/
theorem authenticateLoop_ok_inv (hI : ∀ st st', I st → LoopStep store st st' → I st') :
    ∀ fuel st, I st → authenticateLoop store fuel st = some (.ok ()) →
      ∃ st', I st' ∧ st'.objectsToAuthenticate = [] := by
  intro fuel
  induction fuel with
  | zero => intro st _ h; cases h
  | succ fuel ih =>
    intro st hst h
    cases hs : st.objectsToAuthenticate with
    | nil => exact ⟨st, hst, hs⟩
    | cons x rest =>
      cases hstep : authenticateStep store x { st with objectsToAuthenticate := rest } with
      | error e => rw [authenticateLoop_step_error fuel hs hstep] at h; cases h
      | ok st' =>
        rw [authenticateLoop_step_ok fuel hs hstep] at h
        exact ih st' (hI st st' hst ⟨x, rest, hs, hstep⟩) h

/-- A run from a state whose iterations cannot panic does not panic. -/
theorem authenticateLoop_ne_error (hI : ∀ st st', I st → LoopStep store st st' → I st')
    (hsafe : ∀ st x rest e, I st → st.objectsToAuthenticate = x :: rest →
      authenticateStep store x { st with objectsToAuthenticate := rest } ≠ .error e) :
    ∀ fuel st, I st → ∀ e, authenticateLoop store fuel st ≠ some (.error e) := by
  intro fuel
  induction fuel with
  | zero => intro st _ e h; cases h
  | succ fuel ih =>
    intro st hst e h
    cases hs : st.objectsToAuthenticate with
    | nil => rw [authenticateLoop_nil fuel hs] at h; cases h
    | cons x rest =>
      cases hstep : authenticateStep store x { st with objectsToAuthenticate := rest } with
      | error e' => exact hsafe st x rest e' hst hs hstep
      | ok st' =>
        rw [authenticateLoop_step_ok fuel hs hstep] at h
        exact ih st' (hI st st' hst ⟨x, rest, hs, hstep⟩) e h

end Runs

/-- More fuel does not change a run that has ended. -/
theorem authenticateLoop_fuel_mono {r : Except Failure Unit} :
    ∀ {n m : Nat} {st : AuthState}, authenticateLoop store n st = some r → n ≤ m →
      authenticateLoop store m st = some r
  | 0, _, _, h, _ => by cases h
  | n + 1, m + 1, st, h, hnm => by
    cases hs : st.objectsToAuthenticate with
    | nil => rw [authenticateLoop_nil n hs] at h; rw [authenticateLoop_nil m hs, h]
    | cons x rest =>
      cases hstep : authenticateStep store x { st with objectsToAuthenticate := rest } with
      | error e =>
        rw [authenticateLoop_step_error n hs hstep] at h
        rw [authenticateLoop_step_error m hs hstep, h]
      | ok st' =>
        rw [authenticateLoop_step_ok n hs hstep] at h
        rw [authenticateLoop_step_ok m hs hstep]
        exact authenticateLoop_fuel_mono h (Nat.le_of_succ_le_succ hnm)
  | _ + 1, 0, _, _, hnm => absurd hnm (Nat.not_succ_le_zero _)

/-! ### The termination measure -/

/-- Every covered id records its parent, and that parent is authenticated, covered,
absent from the store, or on top of the worklist. -/
def CoverInv (store : BackingStore) (st : AuthState) : Prop :=
  ∀ y p, st.covered.lookup y = some p → store.ParentOf p y ∧
    (p ∈ st.authenticatedObjects ∨ p ∈ st.covered ∨ store.getObject p = none ∨
      st.objectsToAuthenticate.head? = some p)

theorem coverInv_init (objs : List ObjectID) (auth : Finset ObjectID) :
    CoverInv store ⟨objs, auth, ∅⟩ := by
  intro y p h
  cases h

/-- Iterations keep `CoverInv`. -/
theorem LoopStep.coverInv {st st' : AuthState} (h : LoopStep store st st')
    (hinv : CoverInv store st) : CoverInv store st' := by
  have hmono := h.mono
  obtain ⟨x, rest, hs, hcases⟩ := h.cases
  -- a recorded parent other than the popped `x` keeps its reason
  have hold : ∀ y q, st.covered.lookup y = some q → q ≠ x →
      q ∈ st'.authenticatedObjects ∨ q ∈ st'.covered ∨ store.getObject q = none := by
    intro y q hy hqx
    rcases (hinv y q hy).2 with hq | hq | hq | hq
    · exact .inl (hmono.1 hq)
    · exact .inr (.inl (hmono.2 q hq))
    · exact .inr (.inr hq)
    · rw [hs, List.head?_cons, Option.some_inj] at hq
      exact absurd hq.symm hqx
  rcases hcases with ⟨hx, rfl⟩ | ⟨p, hpx, hc, hcases⟩
  · intro y q hy
    refine ⟨(hinv y q hy).1, ?_⟩
    by_cases hqx : q = x
    · exact .inr (.inr (.inl (hqx ▸ hx)))
    · rcases hold y q hy hqx with hq | hq | hq
      exacts [.inl hq, .inr (.inl hq), .inr (.inr (.inl hq))]
  intro y q hy
  rw [hc] at hy
  by_cases hyx : y = x
  · -- the entry just recorded
    subst hyx
    rw [AList.lookup_insert, Option.some_inj] at hy
    subst hy
    refine ⟨hpx, ?_⟩
    rcases hcases with ⟨hq, ha, -⟩ | ⟨-, -, -, hstack⟩ | ⟨-, hq, -⟩
    · exact .inl (ha ▸ Finset.mem_insert_of_mem hq)
    · exact .inr (.inr (.inr (by rw [hstack]; rfl)))
    · exact .inr (.inl (hmono.2 _ hq))
  · rw [AList.lookup_insert_ne hyx] at hy
    refine ⟨(hinv y q hy).1, ?_⟩
    by_cases hqx : q = x
    · subst hqx
      exact .inr (.inl (by rw [hc, AList.mem_insert]; exact .inl rfl))
    · rcases hold y q hy hqx with hq | hq | hq
      exacts [.inl hq, .inr (.inl hq), .inr (.inr (.inl hq))]

/-- The weight of an id on the worklist: 2 for an object of the store, which may push a
parent when it is popped, and 1 for an absent id. -/
def weight (store : BackingStore) (y : ObjectID) : Nat :=
  if (store.getObject y).isSome then 2 else 1

/-- The ids the store holds that `covered` does not. -/
def uncovered (store : BackingStore) (covered : ObjMap ObjectID) : Finset ObjectID :=
  store.objects.keys.toFinset.filter (· ∉ covered)

/-- The termination measure of the worklist loop. -/
def measure (store : BackingStore) (st : AuthState) : Nat :=
  (st.objectsToAuthenticate.map (weight store)).sum + 2 * (uncovered store st.covered).card

theorem weight_le_two (y : ObjectID) : weight store y ≤ 2 := by
  unfold weight
  split <;> omega

theorem uncovered_insert (covered : ObjMap ObjectID) (x p : ObjectID) :
    uncovered store (covered.insert x p) = (uncovered store covered).erase x := by
  ext y
  simp only [uncovered, Finset.mem_filter, Finset.mem_erase, AList.mem_insert, not_or]
  tauto

theorem measure_cons {st : AuthState} {x : ObjectID} {rest : List ObjectID}
    (hs : st.objectsToAuthenticate = x :: rest) :
    measure store st =
      weight store x + (rest.map (weight store)).sum + 2 * (uncovered store st.covered).card := by
  rw [measure, hs, List.map_cons, List.sum_cons, Nat.add_assoc]

/-- Every iteration from a state with `CoverInv` lowers the measure. -/
theorem LoopStep.measure_lt {st st' : AuthState} (h : LoopStep store st st')
    (hinv : CoverInv store st) : measure store st' < measure store st := by
  obtain ⟨x, rest, hs, hcases⟩ := h.cases
  rw [measure_cons hs]
  rcases hcases with ⟨hx, rfl⟩ | ⟨p, hpx, hc, hcases⟩
  · have hwx : weight store x = 1 := by simp [weight, hx]
    show (rest.map (weight store)).sum + 2 * (uncovered store st.covered).card < _
    omega
  have hwx : weight store x = 2 := by simp [weight, hpx.isSome]
  have hU : (uncovered store st'.covered).card ≤ (uncovered store st.covered).card := by
    rw [hc, uncovered_insert]
    exact Finset.card_erase_le
  unfold measure
  rcases hcases with ⟨-, -, hstack⟩ | ⟨hpa, hpc, -, hstack⟩ | ⟨-, -, -, hstack⟩
  · rw [hstack]; omega
  · rw [hstack, List.map_cons, List.sum_cons]
    by_cases hxc : x ∈ st.covered
    · -- `x` was popped before: the parent it recorded, `p`, can only be absent
      obtain ⟨q, hq⟩ := Option.isSome_iff_exists.mp (AList.lookup_isSome.mpr hxc)
      obtain ⟨hqx, hqcases⟩ := hinv x q hq
      obtain rfl := hqx.unique hpx
      have hp : store.getObject q = none := by
        rcases hqcases with hq | hq | hq | hq
        · exact absurd hq hpa
        · exact absurd hq hpc
        · exact hq
        · rw [hs, List.head?_cons, Option.some_inj] at hq
          exact absurd (hq ▸ hxc) hpc
      have hwp : weight store q = 1 := by simp [weight, hp]
      omega
    · -- covering `x` pays for the parent
      have hmem : x ∈ uncovered store st.covered := by
        simp only [uncovered, Finset.mem_filter, List.mem_toFinset, AList.mem_keys]
        exact ⟨AList.lookup_isSome.mp hpx.isSome, hxc⟩
      have hlt : (uncovered store st'.covered).card + 1 = (uncovered store st.covered).card := by
        rw [hc, uncovered_insert, Finset.card_erase_add_one hmem]
      have := @weight_le_two store p
      omega
  · rw [hstack]; omega

/-- Enough fuel: a run from a state with `CoverInv` ends within `measure` iterations. -/
theorem authenticateLoop_isSome :
    ∀ fuel st, CoverInv store st → measure store st < fuel →
      (authenticateLoop store fuel st).isSome := by
  intro fuel
  induction fuel with
  | zero => intro st _ h; omega
  | succ fuel ih =>
    intro st hinv hlt
    cases hs : st.objectsToAuthenticate with
    | nil => rw [authenticateLoop_nil fuel hs, Option.isSome_some]
    | cons x rest =>
      cases hstep : authenticateStep store x { st with objectsToAuthenticate := rest } with
      | error e => rw [authenticateLoop_step_error fuel hs hstep, Option.isSome_some]
      | ok st' =>
        rw [authenticateLoop_step_ok fuel hs hstep]
        have hloop : LoopStep store st st' := ⟨x, rest, hs, hstep⟩
        exact ih st' (hloop.coverInv hinv) (by have := hloop.measure_lt hinv; omega)

theorem measure_init_lt (objs : List ObjectID) (auth : Finset ObjectID) :
    measure store ⟨objs, auth, ∅⟩ < worklistBound store objs := by
  have hsum : (objs.map (weight store)).sum ≤ 2 * objs.length := by
    induction objs with
    | nil => simp
    | cons y ys ih =>
      simp only [List.map_cons, List.sum_cons, List.length_cons]
      have := @weight_le_two store y
      omega
  have hcard : (uncovered store ∅).card ≤ store.objects.entries.length := calc
    (uncovered store ∅).card ≤ store.objects.keys.toFinset.card := Finset.card_filter_le _ _
    _ ≤ store.objects.keys.length := List.toFinset_card_le _
    _ = store.objects.entries.length := List.length_map _ _
  simp only [measure, worklistBound]
  omega

/-- The worklist loop of `check_ownership_invariants` terminates on every store, also one
whose owner links form cycles or name ids it does not hold, for every initial worklist and
set of authenticated objects: within `worklistBound` iterations it reaches a result that
no further iteration changes. -/
theorem authenticateLoop_terminates (store : BackingStore) (objs : List ObjectID)
    (auth : Finset ObjectID) :
    ∃ r, ∀ fuel, worklistBound store objs ≤ fuel →
      authenticateLoop store fuel ⟨objs, auth, ∅⟩ = some r := by
  obtain ⟨r, hr⟩ := Option.isSome_iff_exists.mp
    (authenticateLoop_isSome _ _ (coverInv_init objs auth) (measure_init_lt objs auth))
  exact ⟨r, fun _ hfuel => authenticateLoop_fuel_mono hr hfuel⟩

/-- The store of two objects: `1` owned by the object `2`, and `2` owned by itself. -/
def selfOwnedStore : BackingStore :=
  ⟨((∅ : ObjMap Object).insert 1 ⟨1, 0, 0, .objectOwner 2, 0, 0, .move "" []⟩).insert 2
      ⟨2, 0, 0, .objectOwner 2, 0, 0, .move "" []⟩,
    fun _ _ => none, fun _ => none, fun _ _ _ => none⟩

/-- The covered map does not stop an object of the store from being pushed as a parent
twice: popping `1` pushes its parent `2`, and popping `2`, which owns itself and is not yet
covered, pushes `2` again. The loop still ends. -/
theorem authenticateLoop_pushes_self_owned_twice :
    ∃ st₁ st₂, authenticateStep selfOwnedStore 1 ⟨[], ∅, ∅⟩ = .ok st₁ ∧
      st₁.objectsToAuthenticate = [2] ∧
      authenticateStep selfOwnedStore 2 { st₁ with objectsToAuthenticate := [] } = .ok st₂ ∧
      st₂.objectsToAuthenticate = [2] ∧
      authenticateLoop selfOwnedStore 4 ⟨[1], ∅, ∅⟩ = some (.ok ()) :=
  ⟨_, _, rfl, rfl, rfl, rfl, rfl⟩

end AuthState

end SuiTemporaryStore
