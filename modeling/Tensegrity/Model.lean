import Tensegrity.Realize
import Tensegrity.Component

/-!
# Models

A model holds what a structure was built into: its components, in realization order, and its
groups. On top of them it keeps labels bound to lists of component ids, markers attached to
rigid bodies, recording observers, whether it is built, and the time elapsed.

Building into a model realizes the whole structure first and installs nothing unless that
succeeds; a built model refuses a second build until it is torn down. A step of `dt` notifies
every observer in the order they were added, then steps every actuator and adds `dt` to the
elapsed time. Tearing down notifies the observers, then clears components, groups, labels and
markers and resets the elapsed time.

Observers are notified by taking them out of the model and letting each react in turn: it may
change itself and the model it is shown, and records events, returned by the operation that
notifies them; the observers are then put back, before any added while they were told. A
recording observer records what it is told; one with a `Drive` also sets, on each step, the
target of every actuator whose tags contain its query to the actuator's rest length plus its
delta.
-/

namespace Tensegrity

/-- **A marker** attached to a rigid body. -/
structure Marker where
  /-- The component id of the body. -/
  body : Nat
  /-- The marked point relative to the body's centre of mass. -/
  offset : Vec3
  /-- Display colour. -/
  color : Vec3
  /-- The node number it stands for. -/
  node : Nat
deriving Inhabited

/-- **Settings of a model.** -/
structure ModelConfig where
  /-- Where its description is kept, if it has one. -/
  descriptionPath : Option String := none
  /-- How far a described structure is moved before it is built. -/
  lift : Vec3 := ⟨0, 10, 0⟩
deriving Inhabited

/-- What a driving observer does on each step. -/
structure Drive where
  /-- Actuators whose tags contain these are driven. -/
  query : Tags
  /-- Added to the rest length to give the new target. -/
  delta : Float32
deriving Inhabited

/-- **A recording observer.** -/
structure Observer where
  /-- Its name, written in every event it records. -/
  name : String
  /-- What it drives, if anything. -/
  drive : Option Drive := none
deriving Inhabited

/-- What an observer is told. -/
inductive Notice where
  /-- Set-up, with the built flag and the number of actuators. -/
  | setup (built : Bool) (actuators : Nat)
  /-- A step of `dt` about to be taken at time `elapsed`, with the number of components. -/
  | step (dt : Float32) (elapsed : Float) (components : Nat)
  /-- Tear-down, with the number of components before they are cleared. -/
  | teardown (components : Nat)
deriving Inhabited

/-- **An event**: what one observer recorded. -/
structure Event where
  /-- The observer's name. -/
  observer : String
  /-- What it was told. -/
  notice : Notice
deriving Inhabited

/-- **A model.** -/
structure Model where
  /-- Its settings. -/
  config : ModelConfig := {}
  /-- Components, in realization order; a component's id is its position. -/
  components : List Component := []
  /-- Groups of component ids. -/
  groups : List Group := []
  /-- Labels with the ids bound to them, labels ascending. -/
  bindings : List (String × List Nat) := []
  /-- Markers, in the order attached. -/
  markers : List Marker := []
  /-- Observers, in the order added. -/
  observers : List Observer := []
  /-- Whether a structure has been built into it since the last tear-down. -/
  built : Bool := false
  /-- Time elapsed in steps since the last tear-down. -/
  elapsed : Float := 0
deriving Inhabited

/-- Moves the target of every actuator whose tags contain the drive's query. -/
def Drive.apply (d : Drive) (cs : List Component) : List Component :=
  cs.map fun c => match c with
    | .actuator a => if a.tags.contains d.query then .actuator (a.setControl (a.restLength + d.delta)) else c
    | .rigid _ => c

namespace Model

/-- An empty model with the given settings. -/
def new (config : ModelConfig) : Model := { config }

/-- **Builds a structure into the model**: realizes it, installs every component in the world
in order, and adopts components (with their handles) and groups. Nothing changes on failure. -/
def buildInto (m : Model) (s : Structure) (spec : BuildSpec) (w : World) : Except Fault (Model × World) :=
  if m.built then .error .alreadyBuilt
  else do
    let r ← s.realize spec
    let (w', cs) := w.installAll r.components
    pure ({ m with components := cs, groups := r.groups, built := true }, w')

/-- The actuators, in component order. -/
def actuators (m : Model) : List Actuator := m.components.filterMap Component.actuator?

/-- The rigid bodies, in component order. -/
def rigids (m : Model) : List RigidBody := m.components.filterMap Component.rigid?

/-- The component with id `i`. -/
def component? (m : Model) (i : Nat) : Option Component := m.components[i]?

/-- **The ids of the components whose tags contain the query**, ascending. -/
def findIds (m : Model) (q : String) : List Nat :=
  let t := Tags.parse q
  (m.components.zipIdx.filter fun (c, _) => c.tags.contains t).map (·.2)

/-- The components whose tags contain the query. -/
def find (m : Model) (q : String) : List Component :=
  let t := Tags.parse q
  m.components.filter (·.tags.contains t)

/-- The actuators among the components whose tags contain the query. -/
def findActuators (m : Model) (q : String) : List Actuator := (m.find q).filterMap Component.actuator?

/-- The rigid bodies among the components whose tags contain the query. -/
def findRigids (m : Model) (q : String) : List RigidBody := (m.find q).filterMap Component.rigid?

/-- The groups whose tags contain the query. -/
def findGroups (m : Model) (q : String) : List Group :=
  let t := Tags.parse q
  m.groups.filter (·.tags.contains t)

/-- Puts a binding in its place among bindings with ascending labels, replacing the old one. -/
def insertBinding (l : String) (ids : List Nat) : List (String × List Nat) → List (String × List Nat)
  | [] => [(l, ids)]
  | (l', ids') :: rest =>
    if l < l' then (l, ids) :: (l', ids') :: rest
    else if l = l' then (l, ids) :: rest
    else (l', ids') :: insertBinding l ids rest

/-- **Binds a label** to the ids the query finds now; returns them. -/
def bind (m : Model) (label q : String) : Model × List Nat :=
  let ids := m.findIds q
  ({ m with bindings := insertBinding label ids m.bindings }, ids)

/-- The ids bound to a label. -/
def lookup (m : Model) (label : String) : Except Fault (List Nat) :=
  match m.bindings.find? (·.1 == label) with
  | some (_, ids) => .ok ids
  | none => .error (.unknownLabel label)

/-- The bound labels, ascending. -/
def labels (m : Model) : List String := m.bindings.map (·.1)

/-- The actuators among the components bound to a label, in bound order. -/
def actuatorGroup (m : Model) (label : String) : Except Fault (List Actuator) := do
  let ids ← m.lookup label
  pure (ids.filterMap fun i => m.components[i]? >>= Component.actuator?)

/-- The rigid bodies with their ids, in component order. -/
def rigidIds (m : Model) : List (Nat × RigidBody) :=
  m.components.zipIdx.filterMap fun (c, i) => c.rigid?.map (i, ·)

/-- **Attaches a marker** to the rigid body that `r` rigid bodies precede, at `point`. -/
def attachMarker (m : Model) (r : Nat) (point color : Vec3) (node : Nat) : Except Fault (Model × Marker) :=
  match m.rigidIds[r]? with
  | some (id, b) =>
    let mk : Marker := { body := id, offset := point - b.center, color, node }
    .ok ({ m with markers := m.markers ++ [mk] }, mk)
  | none => .error (.noRigid r)

/-- Sets the target of the actuator with id `i`; `none` when that is no actuator. -/
def setControl (m : Model) (i : Nat) (t : Float32) : Option (Model × Actuator) :=
  match m.components[i]? with
  | some (.actuator a) =>
    let a' := a.setControl t
    some ({ m with components := m.components.set i (.actuator a') }, a')
  | _ => none

/-- Adds an observer after the others. -/
def addObserver (m : Model) (o : Observer) : Model := { m with observers := m.observers ++ [o] }

/-- **Lets the observers react in turn**: each may change itself and the model it is shown, and
records events; the next one is shown what it left. Gives the observers as they left
themselves, the model the last one left, and all the events in order. -/
def reactAll (react : Observer → Model → Observer × Model × List Event) :
    List Observer → Model → List Observer × Model × List Event
  | [], m => ([], m, [])
  | o :: os, m =>
    let (o', m₁, es₁) := react o m
    let (os', m₂, es₂) := reactAll react os m₁
    (o' :: os', m₂, es₁ ++ es₂)

/-- **Notifies the observers**: they are taken out of the model, react in order, and are put
back before any observer added while they were told. -/
def notify (react : Observer → Model → Observer × Model × List Event) (m : Model) : Model × List Event :=
  let (os, m₁, es) := reactAll react m.observers { m with observers := [] }
  ({ m₁ with observers := os ++ m₁.observers }, es)

end Model

namespace Observer

/-- A recording observer told of set-up records the built flag and the number of actuators. -/
def onSetup (o : Observer) (m : Model) : Observer × Model × List Event :=
  (o, m, [⟨o.name, .setup m.built m.actuators.length⟩])

/-- Told of a step, it records the step with the time and the component count it is shown, and
with a drive it retunes the actuators it drives. -/
def onStep (dt : Float32) (o : Observer) (m : Model) : Observer × Model × List Event :=
  let m₁ := match o.drive with
    | some d => { m with components := d.apply m.components }
    | none => m
  (o, m₁, [⟨o.name, .step dt m.elapsed m.components.length⟩])

/-- Told of tear-down, it records the number of components. -/
def onTeardown (o : Observer) (m : Model) : Observer × Model × List Event :=
  (o, m, [⟨o.name, .teardown m.components.length⟩])

end Observer

namespace Model

/-- Tells every observer, in order, of set-up. -/
def setup (m : Model) : Model × List Event := m.notify Observer.onSetup

/-- **A step of `dt` with observers that react by `onStep`**: refused unless `dt` is finite and
positive; otherwise the observers are told, then every actuator steps, and `dt` is added to the
elapsed time. -/
def stepWith (onStep : Float32 → Observer → Model → Observer × Model × List Event) (m : Model) (dt : Float32) :
    Except Fault (Model × List Event) :=
  if dt.isFinite && dt > 0 then
    let (m₁, es) := m.notify (onStep dt)
    .ok ({ m₁ with components := m₁.components.map (·.step dt), elapsed := m₁.elapsed + dt.toFloat }, es)
  else .error (.timeStep dt)

/-- **A step of `dt`**, with recording observers. -/
def step (m : Model) (dt : Float32) : Except Fault (Model × List Event) := m.stepWith Observer.onStep dt

/-- **Tears down**: tells the observers, then empties the model but for its settings and
observers. -/
def teardown (m : Model) : Model × List Event :=
  let (m₁, es) := m.notify Observer.onTeardown
  ({ m₁ with components := [], groups := [], bindings := [], markers := [], built := false, elapsed := 0 }, es)

end Model

end Tensegrity
