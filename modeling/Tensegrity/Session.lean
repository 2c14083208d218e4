import Tensegrity.Document
import Tensegrity.Preset

/-!
# Working sessions

A session is a workbench for building models step by step: it keeps structures and build
specifications under names, one model, one world, and the log of what the model's observers
recorded. Each `Command` is run against the session and gives a `Reply`; a command that fails
leaves the session as it was, and says why with a `Fault` of the library or a `Session.Problem`
(an unknown name, a path that leaves a structure's tree).

Structure commands act on the structure stored under a name or, given a path of child indices,
on one of its descendants, which is put back in its place afterwards. Realizing, building and
attaching spine markers read a structure the same way: a path picks the descendant they use.
A command that only reads a structure looks up its name before it reads the path; one that
changes it reads the path first, except that a derived node is worked out from the structure
found by name and path before it is added. Parts of a request that could not be read travel with
the command as `Given` values and are reported when the command comes to them: the name a copy
is stored under, what a derived node is made from, and the count, offset and junction of a
chain, which are read after the unit is found.
-/

namespace Tensegrity

/-- How a derived node is made from a node `a` of a structure, with what each way needs besides:
the index `b` of a second node, a vector or a factor. -/
inductive Derivation where
  /-- Halfway between `a` and node `b`. -/
  | midpoint (b : Nat)
  /-- At the sum of the positions of `a` and node `b`. -/
  | sum (b : Nat)
  /-- At the sum of the positions of `a` and node `b`, `a` taken by value. -/
  | sumOwned (b : Nat)
  /-- At `a` displaced by a vector. -/
  | offset (v : Vec3)
  /-- At `a` plus a vector. -/
  | plusVec (v : Vec3)
  /-- At `a` times a factor. -/
  | mul (k : Float32)
  /-- At `a` divided by a factor. -/
  | div (k : Float32)
  /-- At the vector from node `b` to `a`. -/
  | diff (b : Nat)
deriving Inhabited

/-- The second node a derivation uses, if it uses one. -/
def Derivation.second? : Derivation → Option Nat
  | .midpoint b | .sum b | .sumOwned b | .diff b => some b
  | .offset _ | .plusVec _ | .mul _ | .div _ => none

/-- The node a derivation makes from `a` and, where it uses one, the second node `b`; untagged. -/
def Derivation.apply : Derivation → Node → Node → Node
  | .midpoint _, a, b => a.midpoint b
  | .sum _, a, b | .sumOwned _, a, b => a.sum b
  | .offset v, a, _ | .plusVec v, a, _ => a.offset v
  | .mul k, a, _ => a.mul k
  | .div k, a, _ => a.div k
  | .diff _, a, b => .ofPosition (a.diff b)

/-- A part of a command as its request gave it: the value, or why it could not be read. A
command reports such a reason only when it comes to use the part. -/
abbrev Given (α : Type) := Except String α

/-- Where a model's description comes from. -/
inductive DescriptionSource where
  /-- A document given as text. -/
  | text (json : String)
  /-- A file named by a path, read from the session's files. -/
  | file (path : String)
  /-- Nowhere. -/
  | none
deriving Inhabited

/-- **A command** of a session. `s` names a structure and `path` a descendant of it, as the
request gave it. For a derived node, `a` is the index of its first node, not given when the way
of deriving it is unknown, and `d` that way with what it needs besides. -/
inductive Command where
  | new (s : String) (tags : String)
  | copy (s : String) (path : Given (List Nat)) (out : Given String)
  | addNode (s : String) (path : Given (List Nat)) (p : Vec3)
  | addNodeAt (s : String) (path : Given (List Nat)) (p : Vec3) (tags : String)
  | addDerived (s : String) (path : Given (List Nat)) (a : Given Nat) (d : Given Derivation)
      (tags : Option String)
  | addPair (s : String) (path : Given (List Nat)) (a b : Nat) (tags : String)
  | connect (s : String) (path : Given (List Nat)) (a b : Vec3) (tags : String)
  | addChild (s : String) (path : Given (List Nat)) (child : String)
  | addTags (s : String) (path : Given (List Nat)) (tags : String)
  | nodeTags (s : String) (path : Given (List Nat)) (i : Nat) (tags : String)
  | translate (s : String) (path : Given (List Nat)) (v : Vec3)
  | rotate (s : String) (path : Given (List Nat)) (p : Vec3) (q : Quat)
  | scale (s : String) (path : Given (List Nat)) (p : Vec3) (k : Float32)
  | findNode (s : String) (path : Given (List Nat)) (q : Tags)
  | resolve (s : String) (path : Given (List Nat)) (r : NodeRole)
  | dump (s : String) (path : Given (List Nat))
  | replicate (unit : String) (n : Given Nat) (offset : Given Vec3) (j : Given Junction) (out : String)
  | tetraUnit (edge : Float32) (out : String)
  | tetraSpine (n : Nat) (out : String)
  | describe (json : String) (s spec : String)
  | specNew (spec : String)
  | specPreset (spec : String)
  | addBuilder (spec : String) (tag : String) (b : Builder)
  | builder (spec : String) (tag : Given String)
  | bestPair (spec : String) (t : Tags)
  | bestNode (spec : String) (t : Tags)
  | realize (s : String) (path : Given (List Nat)) (spec : String)
  | build (s : String) (path : Given (List Nat)) (spec : String)
  | modelNew (lift : Option Vec3)
  | worldNew (gravity : Option Vec3)
  | fromDescription (source : DescriptionSource) (lift : Option Vec3)
  | isBuilt
  | components
  | component (id : Nat)
  | allRigids
  | allActuators
  | find (q : String)
  | findActuators (q : String)
  | findRigids (q : String)
  | groups
  | findGroups (q : String)
  | bind (label q : String)
  | lookup (label : String)
  | actuatorGroup (label : String)
  | labels
  | bindMuscleGroups
  | setControl (id : Nat) (target : Float32)
  | step (dt : Float32) (times : Nat)
  | elapsed
  | setup
  | teardown
  | addObserver (o : Observer)
  | observerLog
  | attachMarker (r : Nat) (p color : Vec3) (node : Nat)
  | markers
  | attachSpineMarkers (s : String) (path : Given (List Nat))
  | modelConfig
  | world
deriving Inhabited

/-- Which family a command belongs to. -/
def Command.family : Command → Nat
  | .new .. | .copy .. | .addNode .. | .addNodeAt .. | .addDerived .. | .addPair .. | .connect ..
  | .addChild .. | .addTags .. | .nodeTags .. | .translate .. | .rotate .. | .scale ..
  | .findNode .. | .resolve .. | .dump .. | .replicate .. | .tetraUnit .. | .tetraSpine ..
  | .describe .. => 0
  | .specNew .. | .specPreset .. | .addBuilder .. | .builder .. | .bestPair .. | .bestNode .. => 1
  | _ => 2

/-- **What a command gives back.** -/
inductive Reply where
  | nothing
  | index (n : Nat)
  | optIndex (n : Option Nat)
  | indices (ns : List Nat)
  | text (s : String)
  | optText (s : Option String)
  | flag (b : Bool)
  | time (t : Float)
  | structure (s : Structure)
  | connected (pair nodes : Nat)
  | chain (children pairs nodes : Nat)
  | specSize (size : Nat) (isEmpty : Bool)
  | builder (b : Option Builder)
  | best (m : Option (Tags × Builder))
  | realization (r : Realization)
  | built (components : Nat)
  | components (cs : List Component)
  | component (c : Option Component)
  | rigids (bs : List RigidBody)
  | actuators (as : List Actuator)
  | found (ids : List Nat) (tags : List Tags)
  | groups (gs : List Group)
  | labels (ls : List String)
  | actuator (a : Option Actuator)
  | elapsedAfter (t : Float)
  | events (es : List Event)
  | marker (m : Marker)
  | markers (ms : List Marker)
  | markerCount (n : Nat)
  | modelConfig (lift : Vec3) (hasPath : Bool)
  | world (w : World)
  | fault (f : Fault)
  | problem (p : String)
deriving Inhabited

/-- **A session**: named structures and specifications, a model, a world and a log. -/
structure Session where
  /-- Structures by name; a later entry hides an earlier one. -/
  structures : List (String × Structure) := []
  /-- Build specifications by name; a later entry hides an earlier one. -/
  specs : List (String × BuildSpec) := []
  /-- The model. -/
  model : Model := {}
  /-- The world. -/
  world : World := {}
  /-- Events recorded since the log was last read. -/
  log : List Event := []
  /-- The files a description can be read from. -/
  files : FileTree := {}
deriving Inhabited

namespace Session

/-- Why a command could not run. -/
inductive Problem where
  /-- No structure has this name. -/
  | noStructure (name : String)
  /-- No build specification has this name. -/
  | noSpec (name : String)
  /-- A path that leaves the structure's tree. -/
  | pathOutOfRange
  /-- A derived node from a node that does not exist. -/
  | derivedOutOfRange
  /-- A part of the request that could not be read, and why. -/
  | unreadable (why : String)

/-- The text of a problem. -/
def Problem.text : Problem → String
  | .noStructure n => "no structure " ++ n
  | .noSpec n => "no spec " ++ n
  | .pathOutOfRange => "child path out of range"
  | .derivedOutOfRange => "derived node index out of range"
  | .unreadable why => why

/-- The value stored last under a name. -/
def fetch {α : Type} (entries : List (String × α)) (name : String) : Option α :=
  (entries.find? (·.1 == name)).map (·.2)

/-- Stores a value under a name, hiding what was there. -/
def store {α : Type} (entries : List (String × α)) (name : String) (a : α) : List (String × α) :=
  (name, a) :: entries.filter (·.1 != name)

/-- The outcome of a command: the new session and the reply, or why nothing changed. -/
abbrev Outcome := Except Reply (Session × Reply)

/-- A problem as an outcome. -/
def refuse {α : Type} (p : Problem) : Except Reply α := .error (.problem p.text)

/-- A fault as an outcome. -/
def fail {α : Type} (f : Fault) : Except Reply α := .error (.fault f)

/-- Lifts a library result. -/
def lift {α : Type} : Except Fault α → Except Reply α
  | .ok a => .ok a
  | .error f => fail f

/-- A part of the request, or why it could not be read. -/
def given {α : Type} : Given α → Except Reply α
  | .ok a => .ok a
  | .error why => refuse (.unreadable why)

/-- The structure stored under a name. -/
def structureNamed (ss : Session) (s : String) : Except Reply Structure :=
  match fetch ss.structures s with
  | some t => .ok t
  | none => refuse (.noStructure s)

/-- The specification stored under a name. -/
def specNamed (ss : Session) (spec : String) : Except Reply BuildSpec :=
  match fetch ss.specs spec with
  | some b => .ok b
  | none => refuse (.noSpec spec)

/-- The descendant at a path of a named structure; the name is looked up before the path is
read. -/
def descendantAt (ss : Session) (s : String) (path : Given (List Nat)) : Except Reply Structure := do
  let t ← ss.structureNamed s
  match t.descendant? (← given path) with
  | some d => .ok d
  | none => refuse .pathOutOfRange

/-- **Changes a descendant** of a named structure with a library operation and stores the
result; gives the operation's own result. The path is read before the name is looked up. -/
def edit {α : Type} (ss : Session) (s : String) (path : Given (List Nat))
    (f : Structure → Except Reply (Structure × α)) : Except Reply (Session × α) := do
  let path ← given path
  let t ← ss.structureNamed s
  let g : Structure → Except Fault (Structure × Except Reply α) := fun d =>
    match f d with
    | .ok (d', a) => .ok (d', .ok a)
    | .error r => .ok (d, .error r)
  match t.updateAt g path with
  | none => refuse .pathOutOfRange
  | some (.error e) => fail e
  | some (.ok (t', .ok a)) => .ok ({ ss with structures := store ss.structures s t' }, a)
  | some (.ok (_, .error r)) => .error r

/-- Changes a descendant with an operation that cannot fail. -/
def modify {α : Type} (ss : Session) (s : String) (path : Given (List Nat)) (f : Structure → Structure × α) :
    Except Reply (Session × α) :=
  ss.edit s path fun d => .ok (f d)

/-- Stores a structure under a name. -/
def keep (ss : Session) (name : String) (t : Structure) : Session :=
  { ss with structures := store ss.structures name t }

/-- Stores a specification under a name. -/
def keepSpec (ss : Session) (name : String) (b : BuildSpec) : Session :=
  { ss with specs := store ss.specs name b }

/-- Appends events to the log. -/
def record (ss : Session) (es : List Event) : Session := { ss with log := ss.log ++ es }

/-- The most steps one step command runs; a request for more runs this many. -/
def maxSteps : Nat := 10000

/-- Steps the model `n` times; the first refused step ends the run. -/
def stepTimes (dt : Float32) : Nat → Session → Except Reply Session
  | 0, ss => .ok ss
  | n + 1, ss => do
    let (m, es) ← lift (ss.model.step dt)
    stepTimes dt n ({ ss with model := m }.record es)

/-- The text of a description: given as text, or read from the session's files. -/
def fetchFor (files : FileTree) : DescriptionSource → String → Except FileProblem String
  | .text json, _ => .ok json
  | .file _, path => files.read path
  | .none, _ => .error .notFound

/-- The path a model's settings name for a description source. -/
def pathOf : DescriptionSource → Option String
  | .text _ => some "description.json"
  | .file p => some p
  | .none => none

/-- Runs a structure command. -/
def runStructure (ss : Session) : Command → Outcome
  | .new s tags => .ok (ss.keep s (Structure.empty.addTags tags), .nothing)
  | .copy s path out => do
    let d ← ss.descendantAt s path
    pure (ss.keep (← given out) d, .nothing)
  | .addNode s path p => do
    let (ss, i) ← ss.modify s path (·.addNode p)
    pure (ss, .index i)
  | .addNodeAt s path p tags => do
    let (ss, i) ← ss.modify s path (·.addNodeAt ((Node.ofPosition p).withTags tags))
    pure (ss, .index i)
  | .addDerived s path a how tags => do
    let _ ← ss.descendantAt s path
    let (ss, i) ← ss.edit s path fun d => do
      let node : Nat → Except Reply Node := fun j =>
        match d.nodes[j]? with
        | some n => .ok n
        | none => refuse .derivedOutOfRange
      let na ← node (← given a)
      let how ← given how
      let nb ← match how.second? with
        | some b => node b
        | none => pure default
      let n := how.apply na nb
      pure (d.addNodeAt (match tags with | some t => n.withTags t | none => n))
    pure (ss, .index i)
  | .addPair s path a b tags => do
    let (ss, i) ← ss.edit s path fun d => lift (d.addPair a b tags)
    pure (ss, .index i)
  | .connect s path a b tags => do
    let (ss, r) ← ss.edit s path fun d => do
      let (d', i) ← lift (d.connect a b tags)
      pure (d', (i, d'.nodes.length))
    pure (ss, .connected r.1 r.2)
  | .addChild s path child => do
    let c ← ss.structureNamed child
    let (ss, i) ← ss.modify s path (·.addChild c)
    pure (ss, .index i)
  | .addTags s path tags => do
    let (ss, t) ← ss.modify s path fun d => let d' := d.addTags tags; (d', d'.tags.text)
    pure (ss, .text t)
  | .nodeTags s path i tags => do
    let (ss, t) ← ss.modify s path fun d =>
      match d.tagNode? i tags with
      | some d' => (d', (d'.nodes[i]?).map (·.tags.text))
      | none => (d, none)
    pure (ss, .optText t)
  | .translate s path v => do
    let (ss, _) ← ss.modify s path fun d => (d.translate v, ())
    pure (ss, .nothing)
  | .rotate s path p q => do
    let (ss, _) ← ss.modify s path fun d => (d.rotate p q, ())
    pure (ss, .nothing)
  | .scale s path p k => do
    let (ss, _) ← ss.modify s path fun d => (d.scale p k, ())
    pure (ss, .nothing)
  | .findNode s path q => do
    let d ← ss.descendantAt s path
    pure (ss, .optIndex (d.findNode q))
  | .resolve s path r => do
    let d ← ss.descendantAt s path
    let i ← lift (r.resolve d)
    pure (ss, .index i)
  | .dump s path => do
    let d ← ss.descendantAt s path
    pure (ss, .structure d)
  | .replicate unit n offset j out => do
    let u ← ss.structureNamed unit
    let n ← given n
    let offset ← given offset
    let c ← lift (u.replicate n offset (← given j))
    pure (ss.keep out c, .chain c.children.length c.pairs.length c.nodes.length)
  | .tetraUnit edge out => do
    let u ← lift (Preset.tetraUnit edge)
    pure (ss.keep out u, .nothing)
  | .tetraSpine n out => do
    let c ← lift (Preset.tetraSpine n)
    pure (ss.keep out c, .nothing)
  | .describe json s spec => do
    let d ← lift (Description.ofJson json)
    let ss := ss.keepSpec spec d.buildSpec
    match d.toStructure with
    | .ok t => pure (ss.keep s t, .nothing)
    | .error f => pure (ss, .fault f)
  | _ => .ok (ss, .nothing)

/-- Runs a specification command. -/
def runSpec (ss : Session) : Command → Outcome
  | .specNew spec => .ok (ss.keepSpec spec .empty, .nothing)
  | .specPreset spec => .ok (ss.keepSpec spec Preset.tetraSpineSpec, .nothing)
  | .addBuilder spec tag b =>
    let old := (fetch ss.specs spec).getD .empty
    let new := old.add tag b
    .ok (ss.keepSpec spec new, .specSize new.size new.isEmpty)
  | .builder spec tag => do
    let b ← ss.specNamed spec
    pure (ss, .builder (b.get? (← given tag)))
  | .bestPair spec t => do
    let b ← ss.specNamed spec
    pure (ss, .best (b.bestPair t))
  | .bestNode spec t => do
    let b ← ss.specNamed spec
    pure (ss, .best (b.bestNode t))
  | _ => .ok (ss, .nothing)

/-- Runs a model or world command. -/
def runModel (ss : Session) : Command → Outcome
  | .realize s path spec => do
    let t ← ss.descendantAt s path
    let b ← ss.specNamed spec
    let r ← lift (t.realize b)
    pure (ss, .realization r)
  | .build s path spec => do
    let t ← ss.descendantAt s path
    let b ← ss.specNamed spec
    let (m, w) ← lift (ss.model.buildInto t b ss.world)
    pure ({ ss with model := m, world := w }, .built m.components.length)
  | .modelNew lift => .ok ({ ss with model := .new { lift := lift.getD ⟨0, 10, 0⟩ } }, .nothing)
  | .worldNew gravity => .ok ({ ss with world := { gravity := gravity.getD ⟨0, -9.81, 0⟩ } }, .nothing)
  | .fromDescription src l => do
    let config : ModelConfig := { descriptionPath := pathOf src, lift := l.getD ⟨0, 10, 0⟩ }
    let (m, w) ← lift (Model.fromDescription config ss.world (fetchFor ss.files src))
    pure ({ ss with model := m, world := w }, .built m.components.length)
  | .isBuilt => .ok (ss, .flag ss.model.built)
  | .components => .ok (ss, .components ss.model.components)
  | .component id => .ok (ss, .component (ss.model.component? id))
  | .allRigids => .ok (ss, .rigids ss.model.rigids)
  | .allActuators => .ok (ss, .actuators ss.model.actuators)
  | .find q => .ok (ss, .found (ss.model.findIds q) ((ss.model.find q).map (·.tags)))
  | .findActuators q => .ok (ss, .actuators (ss.model.findActuators q))
  | .findRigids q => .ok (ss, .rigids (ss.model.findRigids q))
  | .groups => .ok (ss, .groups ss.model.groups)
  | .findGroups q => .ok (ss, .groups (ss.model.findGroups q))
  | .bind label q =>
    let (m, ids) := ss.model.bind label q
    .ok ({ ss with model := m }, .indices ids)
  | .lookup label => do
    let ids ← lift (ss.model.lookup label)
    pure (ss, .indices ids)
  | .actuatorGroup label => do
    let as ← lift (ss.model.actuatorGroup label)
    pure (ss, .actuators as)
  | .labels => .ok (ss, .labels ss.model.labels)
  | .bindMuscleGroups => .ok ({ ss with model := Preset.bindMuscleGroups ss.model }, .nothing)
  | .setControl id t =>
    match ss.model.setControl id t with
    | some (m, a) => .ok ({ ss with model := m }, .actuator (some a))
    | none => .ok (ss, .actuator none)
  | .step dt times => do
    let ss ← stepTimes dt (min times maxSteps) ss
    pure (ss, .elapsedAfter ss.model.elapsed)
  | .elapsed => .ok (ss, .time ss.model.elapsed)
  | .setup =>
    let (m, es) := ss.model.setup
    .ok ({ ss with model := m }.record es, .nothing)
  | .teardown =>
    let (m, es) := ss.model.teardown
    .ok ({ ss with model := m }.record es, .nothing)
  | .addObserver o => .ok ({ ss with model := ss.model.addObserver o }, .nothing)
  | .observerLog => .ok ({ ss with log := [] }, .events ss.log)
  | .attachMarker r p c node => do
    let (m, mark) ← lift (ss.model.attachMarker r p c node)
    pure ({ ss with model := m }, .marker mark)
  | .markers => .ok (ss, .markers ss.model.markers)
  | .attachSpineMarkers s path => do
    let spine ← ss.descendantAt s path
    match Preset.attachSpineMarkers ss.model spine with
    | (m, none) => pure ({ ss with model := m }, .markerCount m.markers.length)
    | (m, some f) => pure ({ ss with model := m }, .fault f)
  | .modelConfig => .ok (ss, .modelConfig ss.model.config.lift ss.model.config.descriptionPath.isSome)
  | .world => .ok (ss, .world ss.world)
  | _ => .ok (ss, .nothing)

/-- **Runs a command**: a refused command leaves the session unchanged and replies why. -/
def run (ss : Session) (c : Command) : Session × Reply :=
  let outcome := match c.family with
    | 0 => ss.runStructure c
    | 1 => ss.runSpec c
    | _ => ss.runModel c
  match outcome with
  | .ok r => r
  | .error r => (ss, r)

end Session

end Tensegrity
