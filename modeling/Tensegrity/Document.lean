import Tensegrity.Json.Shape
import Tensegrity.Chain
import Tensegrity.Model
import Tensegrity.Description

/-!
# Documents

The JSON documents of the library and the values they stand for. Each document has a `Shape`
and a function from what was read to the value. Vectors are lists of three numbers, tag sets
are lists of strings (each split into words), builders and node roles are variants, and
parameter records list every field; only the description path of a model may be left out.

Field names are those of the documents: `rolling_friction`, `max_tension`, `target_velocity`,
`min_rest_length`, `description_path`, and `from` and `to` for the two ends of a connector.

A model whose settings name a description is built from that document alone.
-/

namespace Tensegrity

open Json

namespace Document

/-- A vector: three numbers. -/
def vec3 : Json.Shape := .tuple 3 .real "a sequence of 3 f32 values"

/-- A tag set: a list of strings. -/
def tags : Json.Shape := .list .text

/-- Rod parameters. -/
def rod : Json.Shape := .record "RodConfig"
  [("radius", .real), ("density", .real), ("friction", .real), ("rolling_friction", .real),
   ("restitution", .real)]

/-- Cable parameters. -/
def cable : Json.Shape := .record "CableConfig"
  [("stiffness", .real), ("damping", .real), ("pretension", .real), ("history", .flag),
   ("max_tension", .real), ("target_velocity", .real), ("min_rest_length", .real)]

/-- Sphere parameters. -/
def sphere : Json.Shape := .record "SphereConfig" [("radius", .real), ("density", .real), ("friction", .real)]

/-- A builder: `Rod`, `Cable` or `Sphere` with its parameters. -/
def builder : Json.Shape := .variants "ComponentBuilder" [("Rod", rod), ("Cable", cable), ("Sphere", sphere)]

/-- A node role: `Index` with an index or `Tagged` with tags. -/
def role : Json.Shape := .variants "NodeRole" [("Index", .index), ("Tagged", tags)]

/-- A junction: its connectors. -/
def junction : Json.Shape := .record "Junction"
  [("connectors", .list (.record "Connector" [("from", role), ("to", role), ("tags", .text)]))]

/-- A node: position and tags. -/
def node : Json.Shape := .record "Node" [("position", vec3), ("tags", tags)]

/-- World settings. -/
def world : Json.Shape := .record "WorldConfig" [("gravity", vec3)]

/-- Model settings. -/
def model : Json.Shape := .record "ModelConfig" [("description_path", .optional .path), ("lift", vec3)]

/-- A pair entry of a description: two node numbers. -/
def entry : Json.Shape := .tuple 2 .index "an array of length 2"

/-- A structure description. -/
def description : Json.Shape := .record "Description"
  [("structure", .record "StructureSection"
      [("nodes", .list (.record "NodeEntry" [("coordinates", .tuple 3 .real "an array of length 3")])),
       ("rods", .list entry), ("muscles", .list entry)]),
   ("parameters", .record "Parameters"
      [("rods", .record "RodParameters" [("radius", .real), ("density", .real)]),
       ("muscles", .record "MuscleParameters"
          [("stiffness", .real), ("damping", .real), ("pretension", .real)])])]

/-- The vector read. -/
def toVec3 : Datum → Option Vec3
  | .items [.real x, .real y, .real z] => some ⟨x, y, z⟩
  | _ => none

/-- The string read. -/
def toText : Datum → Option String
  | .text s => some s
  | _ => none

/-- The tag set read: the words of all its strings. -/
def toTags : Datum → Option Tags
  | .items ds => Tags.ofStrings <$> ds.mapM toText
  | _ => none

/-- The rod parameters read. -/
def toRod : Datum → Option RodConfig
  | .fields [.real r, .real d, .real f, .real rf, .real re] =>
    some { radius := r, density := d, friction := f, rollingFriction := rf, restitution := re }
  | _ => none

/-- The cable parameters read. -/
def toCable : Datum → Option CableConfig
  | .fields [.real s, .real d, .real p, .flag h, .real mt, .real tv, .real mr] =>
    some { stiffness := s, damping := d, pretension := p, history := h, maxTension := mt,
           targetVelocity := tv, minRestLength := mr }
  | _ => none

/-- The sphere parameters read. -/
def toSphere : Datum → Option SphereConfig
  | .fields [.real r, .real d, .real f] => some { radius := r, density := d, friction := f }
  | _ => none

/-- The builder read. -/
def toBuilder : Datum → Option Builder
  | .variant 0 d => Builder.rod <$> toRod d
  | .variant 1 d => Builder.cable <$> toCable d
  | .variant 2 d => Builder.sphere <$> toSphere d
  | _ => none

/-- The node role read. -/
def toRole : Datum → Option NodeRole
  | .variant 0 (.index i) => some (.index i)
  | .variant 1 d => NodeRole.tagged <$> toTags d
  | _ => none

/-- A connector read. -/
def toConnector : Datum → Option Connector
  | .fields [a, b, .text t] => do
    let a ← toRole a
    let b ← toRole b
    pure ⟨a, b, t⟩
  | _ => none

/-- The junction read. -/
def toJunction : Datum → Option Junction
  | .fields [.items cs] => (fun cs => { connectors := cs }) <$> cs.mapM toConnector
  | _ => none

/-- The node read. -/
def toNode : Datum → Option Node
  | .fields [p, t] => do
    let p ← toVec3 p
    let t ← toTags t
    pure { position := p, tags := t }
  | _ => none

/-- The world settings read. -/
def toWorld : Datum → Option Vec3
  | .fields [g] => toVec3 g
  | _ => none

/-- The model settings read. -/
def toModel : Datum → Option ModelConfig
  | .fields [.absent, l] => (fun l => { descriptionPath := none, lift := l }) <$> toVec3 l
  | .fields [.present (.text p), l] => (fun l => { descriptionPath := some p, lift := l }) <$> toVec3 l
  | _ => none

/-- Two node numbers read. -/
def toEntry : Datum → Option (Nat × Nat)
  | .items [.index a, .index b] => some (a, b)
  | _ => none

/-- Node coordinates read. -/
def toCoordinates : Datum → Option (Float32 × Float32 × Float32)
  | .fields [.items [.real x, .real y, .real z]] => some (x, y, z)
  | _ => none

/-- The description read. -/
def toDescription : Datum → Option Description
  | .fields [.fields [.items ns, .items rs, .items ms],
      .fields [.fields [.real r, .real d], .fields [.real s, .real dm, .real p]]] => do
    let ns ← ns.mapM toCoordinates
    let rs ← rs.mapM toEntry
    let ms ← ms.mapM toEntry
    pure { nodes := ns, rods := rs, muscles := ms, rodRadius := r, rodDensity := d,
           stiffness := s, damping := dm, pretension := p }
  | _ => none

/-- **Reads a document** of a shape and takes its value; what was read always has a value. -/
def readAs {α : Type} [Inhabited α] (s : Json.Shape) (take : Datum → Option α) (text : String) :
    Except Failure α :=
  (fun d => (take d).getD default) <$> s.read text

end Document

/-- Rod parameters from JSON text. -/
def RodConfig.ofJson (text : String) : Except Json.Failure RodConfig := Document.readAs Document.rod Document.toRod text

/-- Cable parameters from JSON text. -/
def CableConfig.ofJson (text : String) : Except Json.Failure CableConfig :=
  Document.readAs Document.cable Document.toCable text

/-- Sphere parameters from JSON text. -/
def SphereConfig.ofJson (text : String) : Except Json.Failure SphereConfig :=
  Document.readAs Document.sphere Document.toSphere text

/-- A builder from JSON text. -/
def Builder.ofJson (text : String) : Except Json.Failure Builder :=
  Document.readAs Document.builder Document.toBuilder text

/-- A tag set from JSON text. -/
def Tags.ofJson (text : String) : Except Json.Failure Tags := Document.readAs Document.tags Document.toTags text

/-- A node role from JSON text. -/
def NodeRole.ofJson (text : String) : Except Json.Failure NodeRole :=
  Document.readAs Document.role Document.toRole text

/-- A junction from JSON text. -/
def Junction.ofJson (text : String) : Except Json.Failure Junction :=
  Document.readAs Document.junction Document.toJunction text

/-- A node from JSON text. -/
def Node.ofJson (text : String) : Except Json.Failure Node := Document.readAs Document.node Document.toNode text

/-- World gravity from JSON text. -/
def World.gravityOfJson (text : String) : Except Json.Failure Vec3 :=
  Document.readAs Document.world Document.toWorld text

/-- Model settings from JSON text. -/
def ModelConfig.ofJson (text : String) : Except Json.Failure ModelConfig :=
  Document.readAs Document.model Document.toModel text

/-- **A description from JSON text**; a refused document is a `malformed` fault. -/
def Description.ofJson (text : String) : Except Fault Description :=
  (Document.readAs Document.description Document.toDescription text).mapError .malformed

/-- **A tag set from a list value**: each item must be a string. -/
def Tags.ofValue (v : Json.Value) : Except Json.Failure Tags :=
  match v with
  | .arr items => Tags.ofStrings <$> items.mapM fun
      | .str s => .ok s
      | other => .error ⟨.invalidType other.found "a string", none⟩
  | other => .error ⟨.invalidType other.found "a sequence", none⟩

/-! ## Models from descriptions

A model whose settings name a description can be built from it alone: the description is
fetched and read, its structure is moved by the model's lift, and it is built with the
description's own rod and muscle builders into a new model with those settings. Fetching is a
parameter, so that the library decides nothing about files: a caller passes a function that
gives the text stored under a path, or says why there is none.
-/

/-- **Builds a new model from the description its settings name.** The first fault wins: no
path, a text that cannot be fetched, a document that cannot be read, a structure that cannot
be made, or a structure that cannot be built. -/
def Model.fromDescription (config : ModelConfig) (w : World)
    (fetch : String → Except FileProblem String) : Except Fault (Model × World) := do
  let path ← match config.descriptionPath with
    | some p => pure p
    | none => throw .noDescriptionPath
  let text ← match fetch path with
    | .ok t => pure t
    | .error e => throw (.unreadable path e)
  let d ← Description.ofJson text
  let s ← d.toStructure
  (Model.new config).buildInto (s.translate config.lift) d.buildSpec w

end Tensegrity
