import DagConsole.Artifact
import DagConsole.Operator

/-! The kinds of node that the canvas can show. -/
namespace DagConsole

inductive NodeType where
  | tableArtifact
  | numericArtifact
  | boolArtifact
  | jsonArtifact
  | stringArtifact
  | imageArtifact
  | dictArtifact
  | listArtifact
  | tupleArtifact
  | bytesArtifact
  | genericArtifact
  | extractOp
  | loadOp
  | functionOp
  | metricOp
  | checkOp
  | paramOp
deriving DecidableEq, Inhabited

namespace NodeType

instance : Enumerated NodeType where
  members := [.tableArtifact, .numericArtifact, .boolArtifact, .jsonArtifact, .stringArtifact,
    .imageArtifact, .dictArtifact, .listArtifact, .tupleArtifact, .bytesArtifact, .genericArtifact,
    .extractOp, .loadOp, .functionOp, .metricOp, .checkOp, .paramOp]
  name
    | .tableArtifact => "table_artifact"
    | .numericArtifact => "numeric_artifact"
    | .boolArtifact => "bool_artifact"
    | .jsonArtifact => "json_artifact"
    | .stringArtifact => "string_artifact"
    | .imageArtifact => "image_artifact"
    | .dictArtifact => "dict_artifact"
    | .listArtifact => "list_artifact"
    | .tupleArtifact => "tuple_artifact"
    | .bytesArtifact => "bytes_artifact"
    | .genericArtifact => "generic_artifact"
    | .extractOp => "extract_op"
    | .loadOp => "load_op"
    | .functionOp => "function_op"
    | .metricOp => "metric_op"
    | .checkOp => "check_op"
    | .paramOp => "param_op"

/-- The node drawn for an artifact. -/
def ofArtifact : ArtifactType → NodeType
  | .table => .tableArtifact
  | .numeric => .numericArtifact
  | .bool => .boolArtifact
  | .json => .jsonArtifact
  | .string => .stringArtifact
  | .image => .imageArtifact
  | .dict => .dictArtifact
  | .list => .listArtifact
  | .tuple => .tupleArtifact
  | .bytes => .bytesArtifact
  | .untyped | .picklable => .genericArtifact

/-- The node drawn for an operator. -/
def ofOperator : OperatorType → NodeType
  | .extract => .extractOp
  | .load => .loadOp
  | .function => .functionOp
  | .metric | .systemMetric => .metricOp
  | .check => .checkOp
  | .param => .paramOp

def isOperator : NodeType → Bool
  | .extractOp | .loadOp | .functionOp | .metricOp | .checkOp | .paramOp => true
  | _ => false

def isArtifact (type : NodeType) : Bool := !type.isOperator

theorem isOperator_ofOperator (type : OperatorType) : (ofOperator type).isOperator := by
  cases type <;> rfl

theorem isArtifact_ofArtifact (type : ArtifactType) : (ofArtifact type).isArtifact := by
  cases type <;> rfl

def toJson (type : NodeType) : Json := .string (Enumerated.name type)

end NodeType

end DagConsole
