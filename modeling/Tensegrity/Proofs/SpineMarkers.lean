import Tensegrity.Preset

/-!
# Markers on a spine

Instrumenting a spine asks for up to four markers, in order (`Preset.markerPlan`): the first
segment's node `3` on the rigid body of rank `0`, then the second segment's nodes `3`, `1` and
`0` on the rigid body of rank `9`; none without a segment, one with a single segment. Each comes
to a marker or to a fault by itself (`Preset.plannedMarker`): a missing node is reported first,
then a missing body, and what a marker needs of the model, its rigid bodies, does not change as
markers are added.

The markers are attached one by one and the first fault stops the rest, so the model keeps the
markers attached before it (`Preset.attachSpineMarkers_eq`). When every planned marker comes
through, the model gains exactly the planned ones; when one fails, it gains those planned before
it, and it is left as it was only when the first planned marker is the one that fails.
-/

namespace Tensegrity

/-- **Steps run in turn until one fails**: the values of the steps before it, and its error. -/
def untilError {ε α : Type} : List (Except ε α) → List α × Option ε
  | [] => ([], none)
  | .ok a :: rest => (a :: (untilError rest).1, (untilError rest).2)
  | .error e :: _ => ([], some e)

/-- **Steps that all succeed** give all their values and no error. -/
theorem untilError_eq_none_iff {ε α : Type} (l : List (Except ε α)) (as : List α) :
    untilError l = (as, none) ↔ l = as.map .ok := by
  induction l generalizing as with
  | nil => cases as <;> simp [untilError]
  | cons x l ih =>
    cases x with
    | error e => cases as <;> simp [untilError]
    | ok a =>
      cases as with
      | nil => simp [untilError]
      | cons b bs =>
        simp only [untilError, List.map_cons, List.cons.injEq, Except.ok.injEq]
        rw [← ih bs]
        cases untilError l
        simp [and_assoc]

/-- **Steps that fail** give the values of the steps before the first failure, and its error. -/
theorem untilError_eq_some_iff {ε α : Type} (l : List (Except ε α)) (as : List α) (e : ε) :
    untilError l = (as, some e) ↔ ∃ rest, l = as.map .ok ++ .error e :: rest := by
  induction l generalizing as with
  | nil => simp [untilError]
  | cons x l ih =>
    cases x with
    | error f => cases as <;> simp [untilError, eq_comm]
    | ok a =>
      cases as with
      | nil => simp [untilError]
      | cons b bs =>
        simp only [untilError, List.map_cons, List.cons_append, List.cons.injEq, Except.ok.injEq]
        rw [exists_and_left, ← ih bs]
        cases untilError l
        simp [and_assoc]

namespace Preset

/-- **The markers a spine asks for**, in order: for each, the segment, the rank of the rigid body
it rides on and the node of the segment it marks. -/
def markerPlan (spine : Structure) : List (Structure × Nat × Nat) :=
  (spine.children.take 1).map (fun c => (c, 0, 3)) ++
    ((spine.children.drop 1).take 1).flatMap fun c => [(c, 9, 3), (c, 9, 1), (c, 9, 0)]

/-- **What a planned marker comes to** on a model: at the node's position less the centre of
mass of the rigid body of that rank, in red; or the fault refusing it, a missing node before a
missing body. -/
def plannedMarker (m : Model) (step : Structure × Nat × Nat) : Except Fault Marker :=
  match step.1.nodes[step.2.2]?, m.rigidIds[step.2.1]? with
  | none, _ => .error (.spineNode step.2.2)
  | some _, none => .error (.noRigid step.2.1)
  | some nd, some (b, body) => .ok ⟨b, nd.position - body.center, ⟨1, 0, 0⟩, 0⟩

/-- Markers do not change what a planned marker comes to. -/
@[simp] theorem plannedMarker_markers (m : Model) (ms : List Marker) :
    plannedMarker { m with markers := ms } = plannedMarker m := rfl

/-- **One marker**: found as planned, attached after the others, or refused with the model kept. -/
theorem attach_eq_plannedMarker (m : Model) (c : Structure) (r i : Nat) :
    (nodePosition c i >>= fun p => m.attachMarker r p ⟨1, 0, 0⟩ 0) =
      (plannedMarker m (c, r, i)).map fun mk => ({ m with markers := m.markers ++ [mk] }, mk) := by
  unfold nodePosition plannedMarker Model.attachMarker
  cases c.nodes[i]? with
  | none => rfl
  | some nd =>
    cases m.rigidIds[r]? with
    | none => rfl
    | some entry => rfl

/-- **Markers at nodes of one segment**: attached in order up to the first that fails. -/
theorem markNodes_eq (c : Structure) (r : Nat) (m : Model) (is : List Nat) :
    markNodes c r ⟨1, 0, 0⟩ m is =
      ({ m with markers := m.markers ++ (untilError (is.map fun i => plannedMarker m (c, r, i))).1 },
        (untilError (is.map fun i => plannedMarker m (c, r, i))).2) := by
  induction is generalizing m with
  | nil => simp [markNodes, untilError]
  | cons i is ih =>
    rw [markNodes, attach_eq_plannedMarker, List.map_cons]
    cases plannedMarker m (c, r, i) with
    | error f => simp [Except.map, untilError]
    | ok mk =>
      -- the model with the marker added plans the rest alike
      simp only [Except.map, ih, plannedMarker_markers, untilError, List.append_assoc, List.singleton_append]

/-- Without a segment, no marker is planned. -/
theorem markerPlan_of_nil {spine : Structure} (h : spine.children = []) : markerPlan spine = [] := by
  unfold markerPlan
  rw [h]
  rfl

/-- With one segment, its node `3` is planned on the first rigid body. -/
theorem markerPlan_of_single {spine first : Structure} (h : spine.children = [first]) :
    markerPlan spine = [(first, 0, 3)] := by
  unfold markerPlan
  rw [h]
  rfl

/-- With two segments or more, the second segment's nodes `3`, `1` and `0` follow on the tenth. -/
theorem markerPlan_of_cons_cons {spine first second : Structure} {rest : List Structure}
    (h : spine.children = first :: second :: rest) :
    markerPlan spine = [(first, 0, 3), (second, 9, 3), (second, 9, 1), (second, 9, 0)] := by
  unfold markerPlan
  rw [h]
  rfl

/-- **Markers on a spine are attached as planned, up to the first that fails**: the model gains
the markers of the planned steps before the first failure, and the failure is reported. -/
theorem attachSpineMarkers_eq (m : Model) (spine : Structure) :
    attachSpineMarkers m spine =
      ({ m with markers := m.markers ++ (untilError ((markerPlan spine).map (plannedMarker m))).1 },
        (untilError ((markerPlan spine).map (plannedMarker m))).2) := by
  unfold attachSpineMarkers
  rcases hc : spine.children with _ | ⟨first, _ | ⟨second, rest⟩⟩
  · simp [markerPlan_of_nil hc, untilError]
  · simp only [markerPlan_of_single hc, List.getElem?_cons_zero, List.getElem?_cons_succ, List.getElem?_nil,
      markNodes_eq, List.map_cons, List.map_nil]
    cases plannedMarker m (first, 0, 3) <;> rfl
  · simp only [markerPlan_of_cons_cons hc, List.getElem?_cons_zero, List.getElem?_cons_succ, markNodes_eq,
      List.map_cons, List.map_nil]
    cases plannedMarker m (first, 0, 3) with
    | error f => rfl
    | ok mk =>
      simp only [untilError, plannedMarker_markers, List.append_assoc, List.singleton_append]

/-- **Instrumenting a spine is not atomic.** It asks for one marker with one segment and four
with two or more (none without a segment): the first segment's node `3` on the rigid body of rank
`0`, then the second segment's nodes `3`, `1` and `0` on the rigid body of rank `9`. When every
one of them comes through, the model gains exactly those markers, in that order, and no fault is
reported. Otherwise the first that fails is reported, and the model keeps the markers attached
before it; nothing else of the model changes in either case. -/
theorem attachSpineMarkers_keeps_earlier_markers (m : Model) (spine : Structure) :
    (spine.children = [] → markerPlan spine = []) ∧
    (∀ first, spine.children = [first] → markerPlan spine = [(first, 0, 3)]) ∧
    (∀ first second rest, spine.children = first :: second :: rest →
      markerPlan spine = [(first, 0, 3), (second, 9, 3), (second, 9, 1), (second, 9, 0)]) ∧
    ∃ ms, (attachSpineMarkers m spine).1 = { m with markers := m.markers ++ ms } ∧
      (((attachSpineMarkers m spine).2 = none ∧ (markerPlan spine).map (plannedMarker m) = ms.map .ok) ∨
        ∃ f rest, (attachSpineMarkers m spine).2 = some f ∧
          (markerPlan spine).map (plannedMarker m) = ms.map .ok ++ .error f :: rest) := by
  refine ⟨markerPlan_of_nil, fun _ => markerPlan_of_single, fun _ _ _ => markerPlan_of_cons_cons,
    (untilError ((markerPlan spine).map (plannedMarker m))).1, ?_, ?_⟩
  · rw [attachSpineMarkers_eq]
  · rw [attachSpineMarkers_eq]
    cases hrun : untilError ((markerPlan spine).map (plannedMarker m)) with
    | mk ms failed =>
      cases failed with
      | none => exact .inl ⟨rfl, (untilError_eq_none_iff _ ms).1 hrun⟩
      | some f =>
        obtain ⟨rest, hrest⟩ := (untilError_eq_some_iff _ ms f).1 hrun
        exact .inr ⟨f, rest, rfl, hrest⟩

/-- A model with one rigid body. -/
def oneBody : Model where
  components := [.rigid default]

/-- A segment of four nodes. -/
def fourNodes : Structure where
  nodes := [default, default, default, default]

/-- Two segments of four nodes. -/
def twoSegments : Structure where
  children := [fourNodes, fourNodes]

/-- **A failed instrumentation keeps a marker.** With one rigid body, the first segment's marker
is attached to it and the second segment's, asked of the tenth, is refused; the fault is
reported and the marker attached before it stays. -/
theorem spine_markers_kept_after_failure :
    (attachSpineMarkers oneBody twoSegments).2 = some (.noRigid 9) ∧
      (attachSpineMarkers oneBody twoSegments).1.markers ≠ oneBody.markers := by
  refine ⟨rfl, fun h => ?_⟩
  have hlen := congrArg List.length h
  exact absurd hlen (by decide)

end Preset

end Tensegrity
