import Mathlib.Data.List.Infix

/-!
# Nodes of an ICD file

The nodes that `IcdParser::parse` lists (`core/iec61850/icd_parse.h`) and the
filter by which `readAllValues` polls some of them
(`core/iec61850/lec61850Client.cc`).
-/

namespace DataGateway.Iec61850

structure DataNode where
  path : String
  fc : String
  deriving DecidableEq

/-- `path.find(text) != std::string::npos`. -/
def contains (path text : String) : Bool :=
  decide (text.toList <:+: path.toList)

/-- The nodes that are not skipped at the head of the polling loop. -/
def DataNode.polled (node : DataNode) : Bool :=
  !(!contains node.path "/SPTR01." || node.fc == "CO" ||
    (node.fc != "ST" && node.fc != "CF"))

end DataGateway.Iec61850
