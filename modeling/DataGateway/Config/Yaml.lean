import Mathlib.Tactic.Common

/-!
# Reading YAML nodes

The part of yaml-cpp that the loader uses (`yaml-cpp/node/impl.h`,
`node/detail/impl.h`).  Every node of the loader is constant, so indexing never
creates a member: a missing key gives a zombie node, which may be tested for
being defined but throws on any other use.
-/

namespace DataGateway.Config

inductive Yaml
  | null
  | scalar (text : String)
  | sequence (items : List Yaml)
  | map (entries : List (Yaml × Yaml))

inductive YamlException
  | badFile
  | parserException
  | invalidNode
  | badSubscript
  | badConversion
  deriving DecidableEq, Repr

/-- `YAML::Node`, which is a zombie when `m_isValid` is false. -/
inductive Node
  | zombie
  | valid (value : Yaml)

/-- The conversions from the text of a scalar, each of which can fail. -/
structure ScalarDecoder where
  int : String → Option Int32
  uint16 : String → Option UInt16
  float : String → Option Float32
  bool : String → Option Bool

/-- `node::equals` for a string. -/
def Yaml.equals (key : String) : Yaml → Bool
  | .scalar text => text = key
  | _ => false

/-- `node_data::get`: the first entry with the key. -/
def Yaml.get (key : String) : Yaml → Except YamlException (Option Yaml)
  | .null => .ok none
  | .sequence _ => .ok none
  | .scalar _ => .error .badSubscript
  | .map entries =>
      .ok ((entries.find? fun entry => entry.1.equals key).map Prod.snd)

namespace Node

/-- `Node::operator[]` on a constant node. -/
def get (node : Node) (key : String) : Except YamlException Node :=
  match node with
  | .zombie => .error .invalidNode
  | .valid value =>
      match value.get key with
      | .error exception => .error exception
      | .ok none => .ok .zombie
      | .ok (some member) => .ok (.valid member)

def isDefined : Node → Bool
  | .zombie => false
  | .valid _ => true

def isNull : Node → Except YamlException Bool
  | .zombie => .error .invalidNode
  | .valid .null => .ok true
  | .valid _ => .ok false

def isScalar : Node → Except YamlException Bool
  | .zombie => .error .invalidNode
  | .valid (.scalar _) => .ok true
  | .valid _ => .ok false

def isSequence : Node → Except YamlException Bool
  | .zombie => .error .invalidNode
  | .valid (.sequence _) => .ok true
  | .valid _ => .ok false

/-- `as<std::string>()`: a null node reads as the text "null". -/
def asString : Node → Except YamlException String
  | .zombie => .error .invalidNode
  | .valid .null => .ok "null"
  | .valid (.scalar text) => .ok text
  | .valid _ => .error .badConversion

/-- `as<T>()` for the types that are converted from the text of a scalar. -/
def as {α : Type} (decode : String → Option α) : Node → Except YamlException α
  | .zombie => .error .invalidNode
  | .valid (.scalar text) =>
      match decode text with
      | none => .error .badConversion
      | some value => .ok value
  | .valid _ => .error .badConversion

/-- What a range `for` goes over; the loader uses it on sequences only. -/
def items : Node → List Node
  | .valid (.sequence items) => items.map Node.valid
  | _ => []

end Node

end DataGateway.Config
