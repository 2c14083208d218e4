import Tensegrity.Proofs.Building
import Tensegrity.Proofs.Grouping

/-!
# The life of a model

A model is built at most once between two tear-downs, and everything it keeps about its
components – the ids bound to labels, the ids of its groups, the bodies its markers ride on –
is an index into one list of components. This module follows a model through any sequence of
the operations a caller has on it (`Model.Op`): building, tearing down, setting up, stepping,
binding labels, attaching markers, adding observers and setting an actuator's target.

The invariant is `Model.Sound`: a model that is not built holds no component, group or marker;
every stored id names a component; every marker rides on a rigid body; every component carries
its world handle. Each operation keeps it (`Sound.apply`), and it holds from a new model on
(`Sound.run`). Stepping, driving and setting targets change actuators in place and nothing else,
which `Component.Retunes` says once for all of them. Recording observers change nothing when told
of set-up or tear-down (`setup_eq`, `teardown_eq`); told of a step, each one with a drive steers
the actuators it drives (`Observer.steer`), which retunes them (`Component.retunes_steer`). The built flag is tied to the history:
after any run from a new model it is set exactly when some build succeeded and no tear-down came
after it (`built_run_iff`).
-/

namespace Tensegrity

namespace Component

/-- **`c'` is `c` retuned**: a rigid body stays exactly as it was, and the handle is kept. -/
def Retunes (c c' : Component) : Prop := c'.handle = c.handle ∧ ∀ b, c = .rigid b → c' = .rigid b

theorem Retunes.refl (c : Component) : Retunes c c := ⟨rfl, fun _ h => h⟩

theorem Retunes.trans {c c' c'' : Component} (h : Retunes c c') (h' : Retunes c' c'') : Retunes c c'' :=
  ⟨h'.1.trans h.1, fun b hb => h'.2 b (h.2 b hb)⟩

/-- A step moves an actuator's rest length and leaves a rigid body alone. -/
theorem retunes_step (c : Component) (dt : Float32) : Retunes c (c.step dt) := by
  cases c with
  | rigid b => exact Retunes.refl _
  | actuator a => exact ⟨rfl, fun _ h => by cases h⟩

/-- A new target keeps the actuator's handle. -/
theorem retunes_setControl (a : Actuator) (t : Float32) : Retunes (.actuator a) (.actuator (a.setControl t)) :=
  ⟨rfl, fun _ h => by cases h⟩

/-- Recording a handle makes it known. -/
@[simp] theorem handle_withHandle (c : Component) (h : Nat) : (c.withHandle h).handle = some h := by
  cases c <;> rfl

/-- **A list retuned** component by component: as many components, rigid bodies where they were
and every handle kept. -/
def Retuned (cs cs' : List Component) : Prop :=
  cs'.length = cs.length ∧ ∀ j (h : j < cs.length) (h' : j < cs'.length), Retunes cs[j] cs'[j]

theorem Retuned.refl (cs : List Component) : Retuned cs cs :=
  ⟨rfl, fun j _ _ => Retunes.refl cs[j]⟩

theorem Retuned.trans {cs cs' cs'' : List Component} (h : Retuned cs cs') (h' : Retuned cs' cs'') :
    Retuned cs cs'' :=
  ⟨h'.1.trans h.1, fun j hj hj'' =>
    have hj' : j < cs'.length := by rw [h.1]; exact hj
    (h.2 j hj hj').trans (h'.2 j hj' hj'')⟩

/-- Retuning each component retunes the list. -/
theorem retuned_map {f : Component → Component} (hf : ∀ c, Retunes c (f c)) (cs : List Component) :
    Retuned cs (cs.map f) :=
  ⟨List.length_map f, fun j hj _ => by
    rw [List.getElem_map]
    exact hf cs[j]⟩

/-- Retuning one component retunes the list. -/
theorem retuned_set {cs : List Component} {i : Nat} {c c' : Component} (hc : cs[i]? = some c)
    (hr : Retunes c c') : Retuned cs (cs.set i c') := by
  refine ⟨List.length_set, fun j hj hj' => ?_⟩
  rw [List.getElem_set]
  by_cases hij : i = j
  · subst hij
    rw [if_pos rfl, (List.getElem?_eq_some_iff.1 hc).2]
    exact hr
  · rw [if_neg hij]
    exact Retunes.refl _

theorem Retuned.lt_length {cs cs' : List Component} (h : Retuned cs cs') {i : Nat} (hi : i < cs.length) :
    i < cs'.length := by
  rw [h.1]
  exact hi

theorem Retuned.rigid {cs cs' : List Component} (h : Retuned cs cs') {j : Nat} {b : RigidBody}
    (hb : cs[j]? = some (.rigid b)) : cs'[j]? = some (.rigid b) := by
  obtain ⟨hj, hget⟩ := List.getElem?_eq_some_iff.1 hb
  have hj' := h.lt_length hj
  rw [List.getElem?_eq_getElem hj', (h.2 j hj hj').2 b hget]

theorem Retuned.handles {cs cs' : List Component} (h : Retuned cs cs')
    (hs : ∀ c ∈ cs, c.handle.isSome) : ∀ c' ∈ cs', c'.handle.isSome := by
  intro c' hc'
  obtain ⟨j, hj', rfl⟩ := List.getElem_of_mem hc'
  have hj : j < cs.length := by rw [← h.1]; exact hj'
  rw [(h.2 j hj hj').1]
  exact hs cs[j] (List.getElem_mem hj)

theorem Retuned.eq_nil {cs' : List Component} (h : Retuned [] cs') : cs' = [] :=
  List.eq_nil_of_length_eq_zero h.1

end Component

/-! ## Observers steering actuators -/

/-- **What an observer does to an actuator on a step**: with a drive whose query the actuator's
tags contain, it sets the target to the rest length plus the drive's delta; otherwise nothing. -/
def Observer.steer (o : Observer) (a : Actuator) : Actuator :=
  match o.drive with
  | some d => if a.tags.contains d.query then a.setControl (a.restLength + d.delta) else a
  | none => a

/-- **What the observers, in order, do to a component**: an actuator is steered by each in
turn, and a rigid body is left alone. -/
def Component.steer (os : List Observer) : Component → Component
  | .rigid b => .rigid b
  | .actuator a => .actuator (os.foldl (fun a o => o.steer a) a)

/-- A drive steers the components it is applied to. -/
theorem Drive.apply_eq_map {o : Observer} {d : Drive} (hd : o.drive = some d) (cs : List Component) :
    d.apply cs = cs.map (Component.steer [o]) := by
  unfold Drive.apply
  refine List.map_congr_left fun c _ => ?_
  cases c with
  | rigid b => rfl
  | actuator a =>
    simp only [Component.steer, List.foldl_cons, List.foldl_nil, Observer.steer, hd]
    split <;> rfl

/-- Steering by one observer, then by the rest, is steering by all of them. -/
theorem Component.steer_cons (o : Observer) (os : List Observer) (c : Component) :
    (c.steer [o]).steer os = c.steer (o :: os) := by
  cases c <;> rfl

/-- **Steering retunes a component**: a rigid body is left alone, and a new target keeps the
handle. -/
theorem Component.retunes_steer (os : List Observer) (c : Component) : Component.Retunes c (c.steer os) := by
  cases c with
  | rigid b => exact Component.Retunes.refl _
  | actuator a =>
    -- each observer in turn sets a new target or leaves the actuator
    induction os generalizing a with
    | nil => exact Component.Retunes.refl _
    | cons o os ih =>
      have hone : Component.Retunes (.actuator a) (.actuator (o.steer a)) := by
        unfold Observer.steer
        split
        · split
          · exact Component.retunes_setControl a _
          · exact Component.Retunes.refl _
        · exact Component.Retunes.refl _
      exact hone.trans (ih (o.steer a))

namespace Model

/-- Driving actuators retunes the components. -/
theorem retuned_drive (d : Drive) (cs : List Component) : Component.Retuned cs (d.apply cs) := by
  refine Component.retuned_map (fun c => ?_) cs
  cases c with
  | rigid b => exact Component.Retunes.refl _
  | actuator a =>
    dsimp only
    split
    · exact Component.retunes_setControl a _
    · exact Component.Retunes.refl _

/-- **Observers that only record** leave themselves and the model they are shown as they were,
and each records one event. -/
theorem reactAll_of_records {react : Observer → Model → Observer × Model × List Event}
    {record : Observer → Model → Event} (h : ∀ o m, react o m = (o, m, [record o m])) :
    ∀ (os : List Observer) (m : Model), reactAll react os m = (os, m, os.map (record · m))
  | [], _ => rfl
  | o :: os, m => by simp only [reactAll, h, reactAll_of_records h os, List.map_cons, List.singleton_append]

/-- Notifying observers that only record changes nothing: they are put back as they were. -/
theorem notify_of_records {react : Observer → Model → Observer × Model × List Event}
    {record : Observer → Model → Event} (h : ∀ o m, react o m = (o, m, [record o m])) (m : Model) :
    m.notify react = (m, m.observers.map (record · { m with observers := [] })) := by
  simp only [notify, reactAll_of_records h, List.append_nil]

/-- Set-up tells each observer once, in order, and changes nothing. -/
@[simp] theorem setup_eq (m : Model) :
    m.setup = (m, m.observers.map fun o => ⟨o.name, .setup m.built m.actuators.length⟩) :=
  @notify_of_records Observer.onSetup (fun o m => ⟨o.name, .setup m.built m.actuators.length⟩) (fun _ _ => rfl) m

/-- Tear-down tells each observer once, in order, then empties the model but for its settings
and observers. -/
@[simp] theorem teardown_eq (m : Model) :
    m.teardown = ({ m with components := [], groups := [], bindings := [], markers := [], built := false, elapsed := 0 },
      m.observers.map fun o => ⟨o.name, .teardown m.components.length⟩) := by
  rw [teardown, @notify_of_records Observer.onTeardown (fun o m => ⟨o.name, .teardown m.components.length⟩)
    (fun _ _ => rfl) m]

/-- A step that is taken notifies the observers, steps every component of what they leave, and
moves the clock. -/
theorem stepWith_of_taken (onStep : Float32 → Observer → Model → Observer × Model × List Event)
    {m : Model} {dt : Float32} (h : (dt.isFinite && decide (dt > 0)) = true) :
    m.stepWith onStep dt =
      .ok ({ (m.notify (onStep dt)).1 with
          components := (m.notify (onStep dt)).1.components.map (·.step dt)
          elapsed := (m.notify (onStep dt)).1.elapsed + dt.toFloat }, (m.notify (onStep dt)).2) := by
  unfold stepWith
  rw [if_pos h]

/-- A refused step gives the step length's fault, and tells no observer. -/
theorem stepWith_of_refused (onStep : Float32 → Observer → Model → Observer × Model × List Event)
    {m : Model} {dt : Float32} (h : (dt.isFinite && decide (dt > 0)) = false) :
    m.stepWith onStep dt = .error (.timeStep dt) := by
  unfold stepWith
  rw [if_neg (by rw [h]; exact Bool.false_ne_true)]

/-- **Telling recording observers of a step**: each records the step with the time and the
component count from before it, in order, and the components are steered by all of them in
turn. -/
theorem reactAll_onStep_eq (dt : Float32) (os : List Observer) (m : Model) :
    reactAll (Observer.onStep dt) os m =
      (os, { m with components := m.components.map (Component.steer os) },
        os.map fun o => ⟨o.name, .step dt m.elapsed m.components.length⟩) := by
  induction os generalizing m with
  | nil =>
    -- no observer steers anything
    have hid : m.components.map (Component.steer []) = m.components :=
      List.map_id'' (fun c => by cases c <;> rfl) _
    simp [reactAll, hid]
  | cons o os ih =>
    -- the first observer steers, then the others are told from what it leaves
    cases hd : o.drive with
    | some d =>
      have hsteer : (m.components.map (Component.steer [o])).map (Component.steer os) =
          m.components.map (Component.steer (o :: os)) := by
        rw [List.map_map]
        exact List.map_congr_left fun c _ => Component.steer_cons o os c
      simp only [reactAll, Observer.onStep, hd, ih, Drive.apply_eq_map hd, hsteer, List.length_map, List.map_cons,
        List.singleton_append]
    | none =>
      -- an observer without a drive steers nothing
      have hmap : m.components.map (Component.steer (o :: os)) = m.components.map (Component.steer os) :=
        List.map_congr_left fun c _ => by
          rw [← Component.steer_cons]
          cases c <;> simp [Component.steer, Observer.steer, hd]
      simp only [reactAll, Observer.onStep, hd, ih, hmap, List.map_cons, List.singleton_append]

/-- A refused step gives the step length's fault. -/
theorem step_of_refused {m : Model} {dt : Float32} (h : (dt.isFinite && decide (dt > 0)) = false) :
    m.step dt = .error (.timeStep dt) :=
  stepWith_of_refused _ h

/-- **A step that is taken** tells the observers, then steps every component, and adds the step
to the time. -/
theorem step_of_taken {m : Model} {dt : Float32} (h : (dt.isFinite && decide (dt > 0)) = true) :
    m.step dt =
      .ok ({ m with
          components := m.components.map fun c => (c.steer m.observers).step dt
          elapsed := m.elapsed + dt.toFloat },
        m.observers.map fun o => ⟨o.name, .step dt m.elapsed m.components.length⟩) := by
  rw [step, stepWith_of_taken _ h, notify, reactAll_onStep_eq]
  simp only [List.map_map, Function.comp_def, List.append_nil]

/-- **A step that is taken** retunes the components and moves the clock, and changes nothing
else. -/
theorem step_eq_ok {m m' : Model} {dt : Float32} {es : List Event} (h : m.step dt = .ok (m', es)) :
    ∃ cs e, Component.Retuned m.components cs ∧ m' = { m with components := cs, elapsed := e } := by
  cases hc : (dt.isFinite && decide (dt > 0)) with
  | false =>
    rw [step_of_refused hc] at h
    cases h
  | true =>
    rw [step_of_taken hc, Except.ok.injEq, Prod.mk.injEq] at h
    obtain ⟨rfl, -⟩ := h
    exact ⟨_, _, Component.retuned_map (fun c => (Component.retunes_steer m.observers c).trans
      (Component.retunes_step _ dt)) m.components, rfl⟩

/-- The ids a query finds name components. -/
theorem lt_of_mem_findIds {m : Model} {q : String} {i : Nat} (h : i ∈ m.findIds q) :
    i < m.components.length := by
  simp only [findIds, List.mem_map, List.mem_filter] at h
  obtain ⟨⟨c, j⟩, ⟨hmem, -⟩, rfl⟩ := h
  exact (List.getElem?_eq_some_iff.1 (List.mk_mem_zipIdx_iff_getElem?.1 hmem)).1

/-- A binding after binding a label is the new one or an old one. -/
theorem mem_insertBinding {l : String} {ids : List Nat} {bs : List (String × List Nat)} {b : String × List Nat}
    (h : b ∈ insertBinding l ids bs) : b = (l, ids) ∨ b ∈ bs := by
  induction bs with
  | nil => simpa [insertBinding] using h
  | cons b' bs ih =>
    unfold insertBinding at h
    split at h
    · simpa using h
    · split at h
      · rcases List.mem_cons.1 h with h | h
        · exact .inl h
        · exact .inr (List.mem_cons_of_mem _ h)
      · rcases List.mem_cons.1 h with h | h
        · exact .inr (h ▸ List.mem_cons_self)
        · rcases ih h with h | h
          · exact .inl h
          · exact .inr (List.mem_cons_of_mem _ h)

/-- The ids a label is looked up to are bound to some label. -/
theorem lookup_eq_ok {m : Model} {label : String} {ids : List Nat} (h : m.lookup label = .ok ids) :
    ∃ l, (l, ids) ∈ m.bindings := by
  unfold lookup at h
  split at h
  · next l ids' hfind =>
    cases h
    exact ⟨l, List.mem_of_find?_eq_some hfind⟩
  · cases h

/-- A rigid body found with its id stands at that id. -/
theorem getElem?_of_mem_rigidIds {m : Model} {i : Nat} {b : RigidBody} (h : (i, b) ∈ m.rigidIds) :
    m.components[i]? = some (.rigid b) := by
  simp only [rigidIds, List.mem_filterMap] at h
  obtain ⟨⟨c, j⟩, hmem, hc⟩ := h
  cases c with
  | rigid b' =>
    simp only [Component.rigid?, Option.map_some, Option.some.injEq, Prod.mk.injEq] at hc
    obtain ⟨rfl, rfl⟩ := hc
    exact List.mk_mem_zipIdx_iff_getElem?.1 hmem
  | actuator a => cases hc

/-- **A marker that is attached** rides on a rigid body found with its id and goes after the
others; nothing else changes. -/
theorem attachMarker_eq_ok {m m' : Model} {r : Nat} {p c : Vec3} {n : Nat} {k : Marker}
    (h : m.attachMarker r p c n = .ok (m', k)) :
    ∃ b, (k.body, b) ∈ m.rigidIds ∧ m' = { m with markers := m.markers ++ [k] } := by
  unfold attachMarker at h
  split at h
  · next i b hr =>
    simp only [Except.ok.injEq, Prod.mk.injEq] at h
    obtain ⟨rfl, rfl⟩ := h
    exact ⟨b, List.mem_of_getElem? hr, rfl⟩
  · cases h

/-- **A target that is set** is set on an actuator, which is put back in its place; nothing else
changes. -/
theorem setControl_eq_some {m m' : Model} {i : Nat} {t : Float32} {a' : Actuator}
    (h : m.setControl i t = some (m', a')) :
    ∃ a, m.components[i]? = some (.actuator a) ∧ a' = a.setControl t ∧
      m' = { m with components := m.components.set i (.actuator a') } := by
  unfold setControl at h
  split at h
  · next a ha =>
    simp only [Option.some.injEq, Prod.mk.injEq] at h
    obtain ⟨rfl, rfl⟩ := h
    exact ⟨a, ha, rfl, rfl⟩
  · cases h

/-- **A build that succeeds** was made on a model that is not built, from a realization that
succeeded, and adopts what was installed. -/
theorem eq_of_buildInto_eq_ok {m : Model} {s : Structure} {spec : BuildSpec} {w : World} {r : Model × World}
    (h : m.buildInto s spec w = .ok r) :
    m.built = false ∧ ∃ R, s.realize spec = .ok R ∧
      r = ({ m with components := (w.installAll R.components).2, groups := R.groups, built := true },
        (w.installAll R.components).1) := by
  cases hm : m.built with
  | true =>
    rw [(buildInto_eq_error_iff m s spec w .alreadyBuilt).2 (.inl ⟨hm, rfl⟩)] at h
    cases h
  | false =>
    cases hR : s.realize spec with
    | error e =>
      rw [(buildInto_eq_error_iff m s spec w e).2 (.inr ⟨hm, hR⟩)] at h
      cases h
    | ok R =>
      rw [buildInto_eq_ok hm hR] at h
      cases h
      exact ⟨rfl, R, rfl, rfl⟩

/-- **A realization's groups name its components.** -/
theorem realize_groups_lt {s : Structure} {spec : BuildSpec} {R : Realization} (h : s.realize spec = .ok R) :
    ∀ g ∈ R.groups, ∀ i ∈ g.components, i < R.components.length := by
  rw [Structure.realize_eq, Fault.firstOr_eq_ok] at h
  obtain ⟨-, rfl⟩ := h
  dsimp only
  intro g hg i hi
  obtain ⟨⟨π, d⟩, hmem, rfl⟩ := List.mem_map.1 hg
  have hd := ((Structure.mem_descendants s).1 hmem).2
  have hbound := Structure.componentStart_add_le spec hd
  simp only [Structure.groupOf, List.mem_range'_1] at hi
  simp only [Structure.componentCount] at hbound hi
  omega

/-! ## Operations -/

/-- **An operation on a model**, with what it needs. -/
inductive Op where
  /-- Builds a structure with a specification, installing it into a world. -/
  | build (s : Structure) (spec : BuildSpec) (w : World)
  /-- Tears the model down. -/
  | teardown
  /-- Tells the observers of set-up. -/
  | setup
  /-- Steps the model. -/
  | step (dt : Float32)
  /-- Binds a label to what a query finds. -/
  | bind (label q : String)
  /-- Attaches a marker to a rigid body. -/
  | attachMarker (r : Nat) (point color : Vec3) (node : Nat)
  /-- Adds an observer. -/
  | addObserver (o : Observer)
  /-- Sets the target of an actuator. -/
  | setControl (i : Nat) (target : Float32)

/-- **What an operation leaves of a model**; a refused operation leaves it as it was. -/
def apply (m : Model) : Op → Model
  | .build s spec w =>
    match m.buildInto s spec w with
    | .ok r => r.1
    | .error _ => m
  | .teardown => m.teardown.1
  | .setup => m.setup.1
  | .step dt =>
    match m.step dt with
    | .ok r => r.1
    | .error _ => m
  | .bind label q => (m.bind label q).1
  | .attachMarker r p c n =>
    match m.attachMarker r p c n with
    | .ok r => r.1
    | .error _ => m
  | .addObserver o => m.addObserver o
  | .setControl i t => ((m.setControl i t).map (·.1)).getD m

/-- The model a sequence of operations leaves. -/
def run (m : Model) (ops : List Op) : Model := ops.foldl apply m

@[simp] theorem run_nil (m : Model) : m.run [] = m := rfl

theorem run_append_singleton (m : Model) (ops : List Op) (op : Op) : m.run (ops ++ [op]) = (m.run ops).apply op := by
  simp [run, List.foldl_append]

/-! ## The invariant -/

/-- **What holds of every model the operations reach.** -/
structure Sound (m : Model) : Prop where
  /-- A model that is not built holds no component, group or marker. -/
  empty_of_unbuilt : m.built = false → m.components = [] ∧ m.groups = [] ∧ m.markers = []
  /-- Every id bound to a label names a component. -/
  bindings_lt : ∀ b ∈ m.bindings, ∀ i ∈ b.2, i < m.components.length
  /-- Every id of every group names a component. -/
  groups_lt : ∀ g ∈ m.groups, ∀ i ∈ g.components, i < m.components.length
  /-- Every marker rides on a rigid body. -/
  markers_rigid : ∀ k ∈ m.markers, ∃ b, m.components[k.body]? = some (.rigid b)
  /-- Every component has its world handle. -/
  handles_some : ∀ c ∈ m.components, c.handle.isSome

/-- A new model holds nothing. -/
theorem Sound.new (config : ModelConfig) : (Model.new config).Sound where
  empty_of_unbuilt _ := ⟨rfl, rfl, rfl⟩
  bindings_lt b hb := by cases hb
  groups_lt g hg := by cases hg
  markers_rigid k hk := by cases hk
  handles_some c hc := by cases hc

/-- **Retuning the components keeps the invariant**, when the rest it reads is kept. -/
theorem Sound.retune {m m' : Model} (h : m.Sound) (hr : Component.Retuned m.components m'.components)
    (hg : m'.groups = m.groups) (hb : m'.bindings = m.bindings) (hk : m'.markers = m.markers)
    (hbuilt : m'.built = m.built) : m'.Sound where
  empty_of_unbuilt hu := by
    obtain ⟨hc, hgs, hks⟩ := h.empty_of_unbuilt (hbuilt ▸ hu)
    rw [hc] at hr
    exact ⟨hr.eq_nil, hg.trans hgs, hk.trans hks⟩
  bindings_lt b hmem i hi := hr.lt_length (h.bindings_lt b (hb ▸ hmem) i hi)
  groups_lt g hmem i hi := hr.lt_length (h.groups_lt g (hg ▸ hmem) i hi)
  markers_rigid k hmem := by
    obtain ⟨b, hbody⟩ := h.markers_rigid k (hk ▸ hmem)
    exact ⟨b, hr.rigid hbody⟩
  handles_some := hr.handles h.handles_some

/-- A model that is torn down holds nothing. -/
theorem Sound.teardown (m : Model) : m.teardown.1.Sound where
  empty_of_unbuilt _ := ⟨rfl, rfl, rfl⟩
  bindings_lt b hb := by cases hb
  groups_lt g hg := by cases hg
  markers_rigid k hk := by cases hk
  handles_some c hc := by cases hc

/-- **A build keeps the invariant**: it only succeeds on a model that is not built, which holds
nothing to go stale, and the realization's groups name its components. -/
theorem Sound.build {m : Model} (h : m.Sound) (s : Structure) (spec : BuildSpec) (w : World) :
    (m.apply (.build s spec w)).Sound := by
  simp only [apply]
  split
  · next r hb =>
    obtain ⟨hm, R, hR, rfl⟩ := eq_of_buildInto_eq_ok hb
    obtain ⟨hc, -, hk⟩ := h.empty_of_unbuilt hm
    -- the labels bound so far were bound to nothing, and there is no marker
    have hnone : ∀ b ∈ m.bindings, b.2 = [] := fun b hb =>
      List.eq_nil_iff_forall_not_mem.2 fun i hi => by simpa [hc] using h.bindings_lt b hb i hi
    refine ⟨fun hu => by simp at hu, ?_, ?_, ?_, ?_⟩
    · intro b hb i hi
      rw [hnone b hb] at hi
      cases hi
    · intro g hg i hi
      simpa [World.installAll_snd] using realize_groups_lt hR g hg i hi
    · intro k hk'
      rw [hk] at hk'
      cases hk'
    · intro c hc'
      rw [World.installAll_snd, List.mem_mapIdx] at hc'
      obtain ⟨i, -, rfl⟩ := hc'
      simp
  · exact h

/-- **Each operation keeps the invariant.** -/
theorem Sound.apply {m : Model} (h : m.Sound) : ∀ op : Op, (m.apply op).Sound
  | .build s spec w => h.build s spec w
  | .teardown => Sound.teardown m
  | .setup => by rw [Model.apply, setup_eq]; exact h
  | .step dt => by
    simp only [Model.apply]
    split
    · next r hstep =>
      obtain ⟨cs, e, hr, hm'⟩ := step_eq_ok hstep
      rw [hm']
      exact h.retune hr rfl rfl rfl rfl
    · exact h
  | .bind label q => by
    refine ⟨h.empty_of_unbuilt, fun b hb i hi => ?_, h.groups_lt, h.markers_rigid, h.handles_some⟩
    rcases mem_insertBinding hb with rfl | hb
    · exact lt_of_mem_findIds hi
    · exact h.bindings_lt b hb i hi
  | .attachMarker r p c n => by
    simp only [Model.apply]
    split
    · next res hres =>
      obtain ⟨m', k⟩ := res
      obtain ⟨b, hb, rfl⟩ := attachMarker_eq_ok hres
      have hbody := getElem?_of_mem_rigidIds hb
      refine ⟨fun hu => ?_, h.bindings_lt, h.groups_lt, fun k hk => ?_, h.handles_some⟩
      · -- a marker is only attached to a built model: the body it rides on exists
        rw [(h.empty_of_unbuilt hu).1] at hbody
        cases hbody
      · rcases List.mem_append.1 hk with hk | hk
        · exact h.markers_rigid k hk
        · obtain rfl := List.mem_singleton.1 hk
          exact ⟨b, hbody⟩
    · exact h
  | .addObserver o => ⟨h.empty_of_unbuilt, h.bindings_lt, h.groups_lt, h.markers_rigid, h.handles_some⟩
  | .setControl i t => by
    simp only [Model.apply]
    cases hs : m.setControl i t with
    | none => exact h
    | some res =>
      obtain ⟨a, ha, ha', hm'⟩ := setControl_eq_some hs
      rw [Option.map_some, Option.getD_some, hm', ha']
      exact h.retune (Component.retuned_set ha (Component.retunes_setControl a t)) rfl rfl rfl rfl

/-- **Every model the operations reach from a new one is sound.** -/
theorem Sound.run (config : ModelConfig) (ops : List Op) : ((Model.new config).run ops).Sound := by
  induction ops using List.reverseRecOn with
  | nil => exact Sound.new config
  | append_singleton ops op ih =>
    rw [run_append_singleton]
    exact ih.apply op

/-! ## The built flag and the history -/

/-- **A run one operation longer, split at one of its operations**: either that operation is
the last one, or it stands in the run before and the last operation comes after it. -/
theorem append_singleton_eq_append_cons {α : Type} {ops pre post : List α} {op x : α} :
    ops ++ [op] = pre ++ x :: post ↔
      (pre = ops ∧ x = op ∧ post = []) ∨ ∃ post', post = post' ++ [op] ∧ ops = pre ++ x :: post' := by
  constructor
  · intro heq
    rcases List.eq_nil_or_concat post with rfl | ⟨post', y, rfl⟩
    · obtain ⟨rfl, hop⟩ := List.append_inj' heq rfl
      exact .inl ⟨rfl, (List.singleton_inj.1 hop).symm, rfl⟩
    · rw [List.concat_eq_append, ← List.cons_append, ← List.append_assoc] at heq
      obtain ⟨hops, hop⟩ := List.append_inj' heq rfl
      obtain rfl := List.singleton_inj.1 hop
      exact .inr ⟨post', by rw [List.concat_eq_append], hops⟩
  · rintro (⟨rfl, rfl, rfl⟩ | ⟨post', rfl, rfl⟩) <;> simp

/-- **A build succeeded since the last tear-down**: some build of the run succeeded on the model
the run had reached, and no tear-down came after it. -/
def BuiltSince (m : Model) (ops : List Op) : Prop :=
  ∃ pre s spec w post, ops = pre ++ .build s spec w :: post ∧
    (∃ r, (m.run pre).buildInto s spec w = .ok r) ∧ ∀ op ∈ post, op ≠ .teardown

/-- A run one operation longer: a build before it still counts unless it tears down, and it
counts itself when it is a build that succeeds. -/
theorem builtSince_append_singleton (m : Model) (ops : List Op) (op : Op) :
    BuiltSince m (ops ++ [op]) ↔ (op ≠ .teardown ∧ BuiltSince m ops) ∨
      ∃ s spec w, op = .build s spec w ∧ ∃ r, (m.run ops).buildInto s spec w = .ok r := by
  constructor
  · rintro ⟨pre, s, spec, w, post, heq, hok, hpost⟩
    rcases append_singleton_eq_append_cons.1 heq with ⟨rfl, rfl, rfl⟩ | ⟨post', rfl, rfl⟩
    · -- the build is the last operation
      exact .inr ⟨s, spec, w, rfl, hok⟩
    · -- the build came before, and the last operation is after it
      exact .inl ⟨hpost op (by simp), pre, s, spec, w, post', rfl, hok,
        fun o ho => hpost o (by simp [ho])⟩
  · rintro (⟨hop, pre, s, spec, w, post, rfl, hok, hpost⟩ | ⟨s, spec, w, rfl, hok⟩)
    · refine ⟨pre, s, spec, w, post ++ [op], by simp, hok, fun o ho => ?_⟩
      rcases List.mem_append.1 ho with ho | ho
      · exact hpost o ho
      · obtain rfl := List.mem_singleton.1 ho
        exact hop
    · exact ⟨ops, s, spec, w, [], rfl, hok, fun o ho => by cases ho⟩

/-- A build leaves a model built exactly when it was built or the build succeeds. -/
theorem built_apply_build (m : Model) (s : Structure) (spec : BuildSpec) (w : World) :
    (m.apply (.build s spec w)).built = true ↔ m.built = true ∨ ∃ r, m.buildInto s spec w = .ok r := by
  simp only [apply]
  split
  · next r hb =>
    obtain ⟨-, R, -, rfl⟩ := eq_of_buildInto_eq_ok hb
    simp only [true_iff]
    exact .inr ⟨_, hb⟩
  · next e hb =>
    simp [hb]

/-- **What the operations other than a build and a tear-down keep**: the settings and the built
flag. -/
theorem apply_keeps (m : Model) : ∀ op : Op, (∀ s spec w, op ≠ .build s spec w) → op ≠ .teardown →
    (m.apply op).config = m.config ∧ (m.apply op).built = m.built
  | .build s spec w, hb, _ => absurd rfl (hb s spec w)
  | .teardown, _, ht => absurd rfl ht
  | .setup, _, _ => by rw [apply, setup_eq]; exact ⟨rfl, rfl⟩
  | .step dt, _, _ => by
    simp only [apply]
    split
    · next r hstep =>
      obtain ⟨cs, e, -, hm'⟩ := step_eq_ok hstep
      rw [hm']
      exact ⟨rfl, rfl⟩
    · exact ⟨rfl, rfl⟩
  | .bind label q, _, _ => ⟨rfl, rfl⟩
  | .attachMarker r p c n, _, _ => by
    simp only [apply]
    split
    · next res hres =>
      obtain ⟨m', k⟩ := res
      obtain ⟨b, -, rfl⟩ := attachMarker_eq_ok hres
      exact ⟨rfl, rfl⟩
    · exact ⟨rfl, rfl⟩
  | .addObserver o, _, _ => ⟨rfl, rfl⟩
  | .setControl i t, _, _ => by
    simp only [apply]
    cases hs : m.setControl i t with
    | none => exact ⟨rfl, rfl⟩
    | some res =>
      obtain ⟨a, -, -, hm'⟩ := setControl_eq_some hs
      rw [Option.map_some, Option.getD_some, hm']
      exact ⟨rfl, rfl⟩

/-- **The built flag follows the history**: after any run from a model that is not built, the
model is built exactly when a build succeeded since the last tear-down. -/
theorem built_run_iff {m : Model} (hm : m.built = false) (ops : List Op) :
    (m.run ops).built = true ↔ BuiltSince m ops := by
  induction ops using List.reverseRecOn with
  | nil =>
    rw [run_nil, hm]
    simp only [Bool.false_eq_true, false_iff]
    rintro ⟨pre, s, spec, w, post, heq, -⟩
    simp at heq
  | append_singleton ops op ih =>
    rw [run_append_singleton, builtSince_append_singleton]
    cases op with
    | teardown => simp [apply, teardown]
    | build s spec w =>
      rw [built_apply_build, ih]
      simp
    | setup | step _ | bind _ _ | attachMarker _ _ _ _ | addObserver _ | setControl _ _ =>
      rw [(apply_keeps _ _ (by simp) (by simp)).2, ih]
      simp

/-- The settings of a model never change. -/
theorem config_run (m : Model) (ops : List Op) : (m.run ops).config = m.config := by
  induction ops using List.reverseRecOn with
  | nil => rfl
  | append_singleton ops op ih =>
    rw [run_append_singleton, ← ih]
    cases op with
    | build s spec w =>
      simp only [apply]
      split
      · next r hb =>
        obtain ⟨-, R, -, rfl⟩ := eq_of_buildInto_eq_ok hb
        rfl
      · rfl
    | teardown => simp [apply]
    | setup | step _ | bind _ _ | attachMarker _ _ _ _ | addObserver _ | setControl _ _ =>
      exact (apply_keeps _ _ (by simp) (by simp)).1

/-- **A built model refuses a build**, and only a built model refuses one with `alreadyBuilt`:
realization never fails so. -/
theorem buildInto_eq_alreadyBuilt_iff (m : Model) (s : Structure) (spec : BuildSpec) (w : World) :
    m.buildInto s spec w = .error .alreadyBuilt ↔ m.built = true := by
  rw [buildInto_eq_error_iff]
  constructor
  · rintro (⟨hb, -⟩ | ⟨-, hr⟩)
    · exact hb
    · rcases Structure.realize_error_kind hr with hk | hk <;> cases hk
  · intro hb
    exact .inl ⟨hb, rfl⟩

/-- **The life of a model.** Run any sequence of builds, tear-downs, set-ups, steps, label
bindings, marker attachments, observer additions and target settings on a new model. The
model is then sound: when it is not built it holds no component, group or marker; every id
bound to a label, every id of a group and every marker's body names a component, and each
marker's body is a rigid body; every component carries its world handle. It is built exactly
when some build succeeded and no tear-down came after it, and a build is refused with
`alreadyBuilt` exactly then. A label is looked up only to ids of components, so the actuators
of a label are read at indices that exist. Tearing it down tells each observer once, in order,
and leaves a new model with the same settings and observers. -/
theorem run_lifecycle (config : ModelConfig) (ops : List Op) :
    let m := (Model.new config).run ops
    m.Sound ∧
    (m.built = true ↔ BuiltSince (Model.new config) ops) ∧
    (∀ s spec w, m.buildInto s spec w = .error .alreadyBuilt ↔ m.built = true) ∧
    (∀ label ids, m.lookup label = .ok ids → ∀ i ∈ ids, i < m.components.length) ∧
    (∀ k ∈ m.markers, k.body < m.components.length) ∧
    m.teardown.2 = m.observers.map (fun o => ⟨o.name, .teardown m.components.length⟩) ∧
    m.teardown.1 = { Model.new config with observers := m.observers } := by
  intro m
  have hsound : m.Sound := Sound.run config ops
  refine ⟨hsound, built_run_iff rfl ops, buildInto_eq_alreadyBuilt_iff m, ?_, ?_, by rw [teardown_eq], ?_⟩
  · intro label ids hlookup i hi
    obtain ⟨l, hl⟩ := lookup_eq_ok hlookup
    exact hsound.bindings_lt _ hl i hi
  · intro k hk
    obtain ⟨b, hb⟩ := hsound.markers_rigid k hk
    exact (List.getElem?_eq_some_iff.1 hb).1
  · -- tearing down keeps only the settings and the observers
    have hconfig : m.config = config := config_run (Model.new config) ops
    simp only [teardown_eq, Model.new, ← hconfig]

/-- A run that builds one rod between two nodes and binds its tag to a label. -/
def buildRodThenBind : List Op :=
  [.build { nodes := [.ofPosition ⟨0, 0, 0⟩, .ofPosition ⟨0, 5, 0⟩], pairs := [⟨0, 1, Tags.parse "rod"⟩] }
    (BuildSpec.empty.add "rod" (.rod {})) {}, .bind "rods" "rod"]

/-- The label bound after building a rod is looked up to the rod's id, which names a component. -/
theorem rod_label_names_component :
    ((Model.new {}).run buildRodThenBind).lookup "rods" = .ok [0] ∧
      0 < ((Model.new {}).run buildRodThenBind).components.length :=
  have h : ((Model.new {}).run buildRodThenBind).lookup "rods" = .ok [0] := rfl
  ⟨h, (run_lifecycle {} buildRodThenBind).2.2.2.1 "rods" [0] h 0 (List.mem_singleton_self 0)⟩

end Model

end Tensegrity
