import EntitySchema.Model.Intrinsic
import EntitySchema.Model.TypeNode
/-!
Type graphs. A graph only ever grows at its end, so a type keeps its id.
-/

namespace EntitySchema

inductive GraphError where
  | unknownType (id : TypeId)
  | scalarCycle (scalar : String)
  | recordCycle (record : String)
  | chainTooDeep (name : String) (limit : Nat)
  | invalidBase (name baseKind expected : String)
  | unexpectedKind (id : TypeId) (found expected : String)
  deriving DecidableEq, Repr

namespace GraphError

def message : GraphError → String
  | .unknownType id => "type " ++ id.name ++ " is not present in the model graph"
  | .scalarCycle scalar => "scalar '" ++ scalar ++ "' has a cyclic base chain"
  | .recordCycle record => "record '" ++ record ++ "' has a cyclic base chain"
  | .chainTooDeep name limit =>
    "base chain of '" ++ name ++ "' exceeds the maximum depth of " ++ Nat.repr limit
  | .invalidBase name baseKind expected =>
    "'" ++ name ++ "' derives from a " ++ baseKind ++ ", expected a " ++ expected
  | .unexpectedKind id found expected =>
    "type " ++ id.name ++ " is a " ++ found ++ ", expected a " ++ expected

def subject : GraphError → String
  | .unknownType id => id.name
  | .scalarCycle scalar => scalar
  | .recordCycle record => record
  | .chainTooDeep name _ => name
  | .invalidBase name _ _ => name
  | .unexpectedKind id _ _ => id.name

end GraphError

structure Graph where
  types : Array TypeNode := #[]
  deriving Repr

namespace Graph

def empty : Graph := {}

def size (graph : Graph) : Nat := graph.types.size

def get? (graph : Graph) (id : TypeId) : Option TypeNode := graph.types[id.index.toNat]?

def get (graph : Graph) (id : TypeId) : Except GraphError TypeNode :=
  match graph.get? id with
  | some node => .ok node
  | none => .error (.unknownType id)

def scalar (graph : Graph) (id : TypeId) : Except GraphError ScalarType :=
  match graph.get id with
  | .ok (.scalar node) => .ok node
  | .ok other => .error (.unexpectedKind id other.kindName "scalar")
  | .error error => .error error

def record (graph : Graph) (id : TypeId) : Except GraphError RecordType :=
  match graph.get id with
  | .ok (.record node) => .ok node
  | .ok other => .error (.unexpectedKind id other.kindName "record")
  | .error error => .error error

def idOfIndex (index : Nat) : TypeId := { index := UInt64.ofNat index }

def add (graph : Graph) (node : TypeNode) : Graph × TypeId :=
  ({ types := graph.types.push node }, idOfIndex graph.types.size)

def findId? (graph : Graph) (accepts : TypeNode → Bool) : Option TypeId :=
  (graph.types.findIdx? accepts).map idOfIndex

def find? (graph : Graph) (name : String) : Option TypeId :=
  graph.findId? fun node => node.name? == some name

/-- The scalar of an intrinsic, which is added when it is first asked for. -/
def intrinsic (graph : Graph) (intrinsic : Intrinsic) : Graph × TypeId :=
  match graph.findId? (TypeNode.isRootScalar intrinsic.name) with
  | some id => (graph, id)
  | none => graph.add (.scalar { name := intrinsic.name })

/-! ## Derivation -/

def maxChainDepth : Nat := 64

/-- Follows the bases of scalars, given those already passed, from the most derived on, and how
many more the chain may hold. -/
def scalarChainFrom (graph : Graph) (remaining : Nat) (passed : List (TypeId × ScalarType))
    (id : TypeId) : Except GraphError (List ScalarType) :=
  match graph.get id with
  | .error error => .error error
  | .ok (.scalar node) =>
    if passed.any fun entry => entry.1 == id then .error (.scalarCycle node.name)
    else
      match remaining with
      | 0 =>
        let leafName := (passed.head?.map fun entry => entry.2.name).getD node.name
        .error (.chainTooDeep leafName maxChainDepth)
      | remaining + 1 =>
        let passed := passed ++ [(id, node)]
        match node.base with
        | none => .ok (passed.map Prod.snd)
        | some base => graph.scalarChainFrom remaining passed base
  | .ok other =>
    match passed.getLast? with
    | none => .error (.unexpectedKind id other.kindName "scalar")
    | some (_, derived) => .error (.invalidBase derived.name other.kindName "scalar")

/-- A scalar and its bases, from the most derived one to the root. -/
def scalarChain (graph : Graph) (id : TypeId) : Except GraphError (List ScalarType) :=
  graph.scalarChainFrom maxChainDepth [] id

def scalarRoot (graph : Graph) (id : TypeId) : Except GraphError ScalarType :=
  match graph.scalarChain id with
  | .error error => .error error
  | .ok chain =>
    match chain.getLast? with
    | some root => .ok root
    | none => .error (.unknownType id)

def addProperties (known added : List Property) : List Property :=
  added.foldl (fun properties property =>
    if properties.any fun earlier => earlier.name == property.name then properties
    else properties ++ [property]) known

def recordPropertiesFrom (graph : Graph) (start : RecordType) (remaining : Nat)
    (passed : List TypeId) (collected : List Property) (current : RecordType) :
    Except GraphError (List Property) :=
  let collected := addProperties collected current.properties
  match current.base with
  | none => .ok collected
  | some base =>
    if passed.contains base then .error (.recordCycle start.name)
    else
      match remaining with
      | 0 => .error (.chainTooDeep start.name maxChainDepth)
      | remaining + 1 =>
        match graph.get base with
        | .error error => .error error
        | .ok (.record next) =>
          graph.recordPropertiesFrom start remaining (passed ++ [base]) collected next
        | .ok other => .error (.invalidBase current.name other.kindName "record")

/-- The properties of a record and then those of its bases. Of properties with the same name the
first one counts. -/
def recordProperties (graph : Graph) (record : RecordType) : Except GraphError (List Property) :=
  graph.recordPropertiesFrom record maxChainDepth [] [] record

/-! ## Unions of literals -/

/-- The literals of the variants, if all of them are literals. The variants are looked at one
after another, up to the first that is none. -/
def literalValues (graph : Graph) : List TypeId → Except GraphError (Option (List Literal))
  | [] => .ok (some [])
  | id :: rest =>
    match graph.get id with
    | .error error => .error error
    | .ok node =>
      match node.literal? with
      | none => .ok none
      | some literal =>
        match graph.literalValues rest with
        | .error error => .error error
        | .ok values => .ok (values.map (literal :: ·))

/-- The values of a union that consists of literals; an empty union is none. -/
def unionLiterals (graph : Graph) (union : UnionType) :
    Except GraphError (Option (List Literal)) :=
  if union.variants.isEmpty then .ok none else graph.literalValues union.variants

end Graph

end EntitySchema
