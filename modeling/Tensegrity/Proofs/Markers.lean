import Tensegrity.Proofs.Installing

/-!
# Attaching markers

A marker is attached to a rigid body named by its rank: the `r`-th rigid body of the model,
counted from zero in component order, which is the `r`-th entry of `Model.rigids`. The model
finds it together with its component id by listing the rigid bodies with their ids
(`Model.rigidIds`), so the whole question is what that list holds. Read without the ids it is
the list of rigid bodies (`rigidIds_map_snd`); its `r`-th entry is the component that is rigid
and has exactly `r` rigid components before it (`getElem?_rigidIds_eq_some_iff`). The second
fact is an induction over the components: a rigid component takes the next rank, and an
actuator takes none.

The main statement is `Model.attachMarker_rank`: a marker is refused exactly when there are at
most `r` rigid bodies, and otherwise it rides on that component, at the point less the body's
centre of mass, and goes after the markers already there.
-/

namespace Tensegrity

namespace Model

/-- A component with its id, as an entry of the rigid bodies with their ids: kept with the id
first when it is rigid, dropped otherwise. -/
def rigidEntry (p : Component × Nat) : Option (Nat × RigidBody) := p.1.rigid?.map (p.2, ·)

theorem rigidIds_eq (m : Model) : m.rigidIds = m.components.zipIdx.filterMap rigidEntry := rfl

/-- **The `r`-th rigid body with its id**, ids counted from `k`: it stands at position `j`, it
is rigid, and exactly `r` rigid bodies come before it. -/
theorem getElem?_filterMap_rigidEntry (cs : List Component) :
    ∀ {k r b : Nat} {body : RigidBody}, ((cs.zipIdx k).filterMap rigidEntry)[r]? = some (b, body) ↔
      ∃ j, b = k + j ∧ cs[j]? = some (.rigid body) ∧ ((cs.take j).filterMap Component.rigid?).length = r := by
  induction cs with
  | nil => simp
  | cons c cs ih =>
    intro k r b body
    cases c with
    | rigid b₀ =>
      -- a rigid component takes rank zero, and every later rigid body moves up by one
      cases r with
      | zero =>
        simp only [List.zipIdx_cons, List.filterMap_cons, rigidEntry, Component.rigid?, Option.map_some,
          List.getElem?_cons_zero, Option.some.injEq, Prod.mk.injEq]
        constructor
        · rintro ⟨rfl, rfl⟩
          exact ⟨0, rfl, rfl, rfl⟩
        · rintro ⟨j, rfl, hj, hlen⟩
          cases j with
          | zero =>
            simp only [List.getElem?_cons_zero, Option.some.injEq, Component.rigid.injEq] at hj
            exact ⟨rfl, hj⟩
          | succ j => simp at hlen
      | succ r =>
        simp only [List.zipIdx_cons, List.filterMap_cons, rigidEntry, Component.rigid?, Option.map_some,
          List.getElem?_cons_succ]
        rw [ih]
        constructor
        · rintro ⟨j, rfl, hj, hlen⟩
          exact ⟨j + 1, by omega, hj, by simp [hlen]⟩
        · rintro ⟨j, rfl, hj, hlen⟩
          cases j with
          | zero => simp at hlen
          | succ j => exact ⟨j, by omega, hj, by simpa [List.filterMap_cons] using hlen⟩
    | actuator a =>
      -- an actuator takes no rank
      simp only [List.zipIdx_cons, List.filterMap_cons, rigidEntry, Component.rigid?, Option.map_none]
      rw [ih]
      constructor
      · rintro ⟨j, rfl, hj, hlen⟩
        exact ⟨j + 1, by omega, hj, by simpa [List.filterMap_cons] using hlen⟩
      · rintro ⟨j, rfl, hj, hlen⟩
        cases j with
        | zero => simp at hj
        | succ j => exact ⟨j, by omega, hj, by simpa [List.filterMap_cons] using hlen⟩

/-- **The `r`-th rigid body with its id** is the component that is rigid and has exactly `r`
rigid components before it. -/
theorem getElem?_rigidIds_eq_some_iff (m : Model) {r b : Nat} {body : RigidBody} :
    m.rigidIds[r]? = some (b, body) ↔
      m.components[b]? = some (.rigid body) ∧ ((m.components.take b).filterMap Component.rigid?).length = r := by
  rw [rigidIds_eq, getElem?_filterMap_rigidEntry]
  constructor
  · rintro ⟨j, rfl, hj⟩
    simpa using hj
  · intro h
    exact ⟨b, by omega, h⟩

/-- **Without their ids, they are the rigid bodies**, in component order. -/
theorem rigidIds_map_snd (m : Model) : m.rigidIds.map Prod.snd = m.rigids := by
  have hentry : ∀ p : Component × Nat, (rigidEntry p).map Prod.snd = p.1.rigid? := by
    intro p
    simp [rigidEntry, Option.map_map, Function.comp_def]
  rw [rigidIds_eq, List.map_filterMap]
  simp only [hentry]
  rw [show (fun p : Component × Nat => p.1.rigid?) = Component.rigid? ∘ Prod.fst from rfl, ← List.filterMap_map,
    List.zipIdx_map_fst]
  rfl

/-- The `r`-th rigid body, read with its id. -/
theorem getElem?_rigids (m : Model) (r : Nat) : m.rigids[r]? = m.rigidIds[r]?.map Prod.snd := by
  rw [← rigidIds_map_snd, List.getElem?_map]

/-- There are as many rigid bodies with ids as rigid bodies. -/
theorem length_rigidIds (m : Model) : m.rigidIds.length = m.rigids.length := by
  rw [← rigidIds_map_snd, List.length_map]

/-- **Attaching a marker by rank.** A marker is refused with `noRigid r` exactly when the model
has at most `r` rigid bodies, and a refused attachment leaves the model as it was. Otherwise
the marker rides on the component `b` that is rigid and has exactly `r` rigid components before
it, so that its body is the `r`-th rigid body; its offset is the point less the body's centre of
mass, lane by lane, and it keeps the colour and node number given. It goes after the markers
already there, and nothing else of the model changes. -/
theorem attachMarker_rank (m : Model) (r : Nat) (p color : Vec3) (node : Nat) :
    (m.attachMarker r p color node = .error (.noRigid r) ↔ m.rigids.length ≤ r) ∧
    (m.rigids.length ≤ r → m.apply (.attachMarker r p color node) = m) ∧
    (r < m.rigids.length → ∃ b body, m.components[b]? = some (.rigid body) ∧
      ((m.components.take b).filterMap Component.rigid?).length = r ∧ m.rigids[r]? = some body ∧
      m.attachMarker r p color node =
        .ok ({ m with markers := m.markers ++ [⟨b, p - body.center, color, node⟩] }, ⟨b, p - body.center, color, node⟩)) := by
  have hnone : m.rigidIds[r]? = none ↔ m.rigids.length ≤ r := by
    rw [List.getElem?_eq_none_iff, length_rigidIds]
  have herror : m.rigids.length ≤ r → m.attachMarker r p color node = .error (.noRigid r) := by
    intro hr
    unfold attachMarker
    rw [hnone.2 hr]
  refine ⟨⟨fun h => ?_, herror⟩, fun hr => by simp [apply, herror hr], fun hr => ?_⟩
  · -- a marker that is refused found no rigid body of that rank
    apply hnone.1
    unfold attachMarker at h
    split at h
    · cases h
    · assumption
  · obtain ⟨⟨b, body⟩, hb⟩ := Option.ne_none_iff_exists'.1 (mt hnone.1 (Nat.not_le.2 hr))
    obtain ⟨hget, hrank⟩ := (getElem?_rigidIds_eq_some_iff m).1 hb
    refine ⟨b, body, hget, hrank, by rw [getElem?_rigids, hb]; rfl, ?_⟩
    unfold attachMarker
    rw [hb]

/-- A model with a cable and then two rigid bodies. -/
def cableThenBodies : Model where
  components := [.actuator default, .rigid default, .rigid default]

/-- The second rigid body of a cable and two bodies is the last component: the cable takes no
rank. -/
theorem second_rigid_after_cable :
    1 < cableThenBodies.rigids.length ∧
    ∃ b body, cableThenBodies.components[b]? = some (.rigid body) ∧
      ((cableThenBodies.components.take b).filterMap Component.rigid?).length = 1 ∧
      cableThenBodies.rigids[1]? = some body ∧
      cableThenBodies.attachMarker 1 .zero .zero 0 =
        .ok ({ cableThenBodies with markers := cableThenBodies.markers ++ [⟨b, .zero - body.center, .zero, 0⟩] },
          ⟨b, .zero - body.center, .zero, 0⟩) :=
  ⟨by decide, (attachMarker_rank cableThenBodies 1 .zero .zero 0).2.2 (by decide)⟩

end Model

end Tensegrity
