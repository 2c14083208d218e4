import Tensegrity.Session
import Tensegrity.Proofs.Preorder

/-!
# Building is all or nothing

Building a structure into a model realizes the whole tree first and installs components only
once that has succeeded, so a build that fails leaves the model and the world exactly as they
were. This module states it for the operation itself and for a session, where the model and
the world are kept from one command to the next.

The failures are of two kinds, told apart by `Fault.kind`. A built model refuses any build with
`alreadyBuilt`; realization itself only ever fails for a pair, with `unbound` or a cable
fault (`realize_error_kind`), so the refusal of a built model is never confused with a failed
realization.
-/

namespace Tensegrity

/-- A cable is refused for its target velocity, and for nothing else. -/
theorem CableConfig.validate_eq_error {c : CableConfig} {f : Fault} (h : c.validate = .error f) :
    f = .cableVelocity c.targetVelocity := by
  unfold CableConfig.validate at h
  split at h
  · cases h
  · cases h
    rfl

namespace Structure

/-- A fault of the tree is the fault of one of its pairs. -/
theorem mem_faults {spec : BuildSpec} {s : Structure} {e : Fault} :
    e ∈ s.faults spec ↔ ∃ t ∈ s.subtree, ∃ p ∈ t.pairs, spec.pairFault p = some e := by
  simp [faults, ownFaults, List.mem_flatMap, List.mem_filterMap]

/-- **Realization fails only for a pair**: for want of a pair builder, or for a cable that does
not validate. -/
theorem realize_error_kind {spec : BuildSpec} {s : Structure} {e : Fault} (h : s.realize spec = .error e) :
    e.kind = .unboundTag ∨ e.kind = .invalidArgument := by
  rw [realize_eq] at h
  -- the error is the first fault of the tree
  have hmem : e ∈ s.faults spec := List.mem_of_mem_head? (Fault.firstOr_eq_error.1 h)
  obtain ⟨t, -, p, -, hp⟩ := mem_faults.1 hmem
  rcases (pairFault_eq_some_iff spec p e).1 hp with ⟨-, rfl⟩ | ⟨k, c, -, hc⟩
  · exact .inl rfl
  · rw [CableConfig.validate_eq_error hc]
    exact .inr rfl

end Structure

namespace World

/-- **Installing hands out consecutive handles**: the `i`-th component installed gets the
world's next handle plus `i`. -/
theorem installAll_snd (w : World) (cs : List Component) :
    (w.installAll cs).2 = cs.mapIdx fun i c => c.withHandle (w.nextHandle + i) := by
  induction cs generalizing w with
  | nil => rfl
  | cons c cs ih =>
    -- one component takes the next handle, and the rest start one further on
    have hnext : (w.install c).1.nextHandle = w.nextHandle + 1 := by cases c <;> rfl
    have hhandle : (w.install c).2 = w.nextHandle := by cases c <;> rfl
    simp only [installAll, List.mapIdx_cons, ih, hnext, hhandle, Nat.add_zero, Nat.add_assoc, Nat.add_comm 1]

end World

namespace Model

/-- **A build fails** when the model is built, with `alreadyBuilt`, and otherwise exactly when
realizing the structure fails, with the same fault. -/
theorem buildInto_eq_error_iff (m : Model) (s : Structure) (spec : BuildSpec) (w : World) (e : Fault) :
    m.buildInto s spec w = .error e ↔
      (m.built = true ∧ e = .alreadyBuilt) ∨ (m.built = false ∧ s.realize spec = .error e) := by
  unfold buildInto
  cases hb : m.built with
  | true =>
    simp only [if_true, Except.error.injEq, true_and, Bool.true_eq_false, false_and, or_false]
    exact eq_comm
  | false =>
    simp only [Bool.false_eq_true, if_false, false_and, true_and, false_or]
    rcases s.realize spec with f | r
    · -- a failed realization is passed on as it is
      show (Except.error f : Except Fault (Model × World)) = .error e ↔ _
      simp only [Except.error.injEq]
    · -- a realization that succeeds is installed, and the build succeeds
      show (Except.ok _ : Except Fault (Model × World)) = .error e ↔ _
      simp only [reduceCtorEq]

/-- **A build that succeeds** installs the realized components in order and adopts them, with
their handles, and the groups; the rest of the model is kept. -/
theorem buildInto_eq_ok {m : Model} {s : Structure} {spec : BuildSpec} {w : World} {R : Realization}
    (hm : m.built = false) (hR : s.realize spec = .ok R) :
    m.buildInto s spec w = .ok
      ({ m with components := (w.installAll R.components).2, groups := R.groups, built := true },
        (w.installAll R.components).1) := by
  unfold buildInto
  rw [if_neg (by simp [hm]), hR]
  rfl

end Model

namespace Session

/-- **The build command**, once its structure and specification are found: a refused build
leaves the session as it was and replies with the fault; a successful one keeps the new model
and world. -/
theorem run_build (ss : Session) {name specName : String} {path : Given (List Nat)} {t : Structure}
    {spec : BuildSpec} (ht : ss.descendantAt name path = .ok t) (hs : ss.specNamed specName = .ok spec) :
    ss.run (.build name path specName) =
      match ss.model.buildInto t spec ss.world with
      | .error f => (ss, .fault f)
      | .ok (m, w) => ({ ss with model := m, world := w }, .built m.components.length) := by
  -- both lookups succeed, so what is left of the command is the build itself
  have hmodel : ss.runModel (.build name path specName) =
      (lift (ss.model.buildInto t spec ss.world) >>= fun mw =>
        pure ({ ss with model := mw.1, world := mw.2 }, .built mw.1.components.length)) := by
    delta Session.runModel
    dsimp only
    rw [ht, hs]
    rfl
  -- a build is a command of the model's family, and its refusal keeps the session
  delta Session.run Command.family
  dsimp only
  rw [hmodel]
  rcases ss.model.buildInto t spec ss.world with f | ⟨m, w⟩
  · rfl
  · rfl

/-- **A build that fails changes nothing.** Building into a built model is refused with
`alreadyBuilt`, and only then; building into a model that is not built fails exactly when
realizing the structure fails, with the same fault. Whenever the build replies with a fault,
the session – its model with all its components, groups, labels, markers, observers, flag and
time, and its world with everything installed and the next handle – is exactly as it was. -/
theorem build_fails_atomically (ss : Session) {name specName : String} {path : Given (List Nat)}
    {t : Structure} {spec : BuildSpec}
    (ht : ss.descendantAt name path = .ok t) (hs : ss.specNamed specName = .ok spec) :
    (∀ e, ss.model.buildInto t spec ss.world = .error e ↔
      (ss.model.built = true ∧ e = .alreadyBuilt) ∨ (ss.model.built = false ∧ t.realize spec = .error e)) ∧
    ((ss.run (.build name path specName)).2 = .fault .alreadyBuilt ↔ ss.model.built = true) ∧
    (ss.model.built = false →
      ∀ e, (ss.run (.build name path specName)).2 = .fault e ↔ t.realize spec = .error e) ∧
    (∀ e, (ss.run (.build name path specName)).2 = .fault e → (ss.run (.build name path specName)).1 = ss) := by
  have hrun := run_build ss ht hs
  -- a fault reply comes only from a refused build, which keeps the session
  have hfault : ∀ e, (ss.run (.build name path specName)).2 = .fault e ↔
      ss.model.buildInto t spec ss.world = .error e := by
    intro e
    rw [hrun]
    rcases ss.model.buildInto t spec ss.world with f | ⟨m, w⟩
    · simp
    · simp
  refine ⟨Model.buildInto_eq_error_iff ss.model t spec ss.world, ?_, ?_, ?_⟩
  · rw [hfault, Model.buildInto_eq_error_iff]
    constructor
    · rintro (⟨hb, -⟩ | ⟨-, hr⟩)
      · exact hb
      · -- realization never fails with `alreadyBuilt`
        rcases Structure.realize_error_kind hr with hk | hk <;> cases hk
    · intro hb
      exact .inl ⟨hb, rfl⟩
  · intro hb e
    rw [hfault, Model.buildInto_eq_error_iff, hb]
    simp
  · intro e he
    rw [hfault] at he
    rw [hrun, he]

/-- A session whose model is already built refuses to build an empty structure into it, and
keeps everything. -/
theorem build_into_built_model_refused :
    ({ structures := [("s", {})], specs := [("b", .empty)], model := { built := true } } : Session).descendantAt
        "s" (.ok []) = .ok {} ∧
    ({ structures := [("s", {})], specs := [("b", .empty)], model := { built := true } } : Session).specNamed
        "b" = .ok .empty ∧
    ((({ structures := [("s", {})], specs := [("b", .empty)], model := { built := true } } : Session).run
        (.build "s" (.ok []) "b")).2 = .fault .alreadyBuilt ↔
      ({ structures := [("s", {})], specs := [("b", .empty)], model := { built := true } } : Session).model.built
        = true) :=
  have ht : ({ structures := [("s", {})], specs := [("b", .empty)], model := { built := true } } : Session).descendantAt
      "s" (.ok []) = .ok {} := rfl
  have hs : ({ structures := [("s", {})], specs := [("b", .empty)], model := { built := true } } : Session).specNamed
      "b" = .ok .empty := rfl
  ⟨ht, hs, (build_fails_atomically _ ht hs).2.1⟩

end Session

end Tensegrity
