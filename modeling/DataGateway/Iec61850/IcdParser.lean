import DataGateway.Foundation.Searches
import DataGateway.Foundation.Xml
import DataGateway.Iec61850.Nodes

/-!
# The ICD parser

`IcdParser::parse` and its lookups in the data type templates
(`core/iec61850/icd_parse.h`) on what tinyxml2 has read.  An attribute that is
missing is a null pointer; some uses of attributes are guarded and some give the
pointer to `strcmp`, which is the one way for the parser to fail.
-/

namespace DataGateway.Iec61850

open Foundation

inductive ParseFault
  | nullPointer
  deriving DecidableEq, Repr

structure DataSetInfo where
  name : String
  fcdaPaths : List String
  deriving DecidableEq

structure ReportControlInfo where
  name : String
  datSet : String
  buffered : Bool
  deriving DecidableEq

structure ParseResult where
  nodes : List DataNode
  dataSets : List DataSetInfo
  reports : List ReportControlInfo
  deriving DecidableEq

/-- `if (strcmp(attribute, text) == 0)`. -/
def whenEqual {α : Type} (compared : Option String) (text : String)
    (action : Except ParseFault α) (otherwise : α) : Except ParseFault α :=
  match compared with
  | none => .error .nullPointer
  | some value => if value = text then action else .ok otherwise

section Templates

variable (scl : XmlElement)

/-- The lookups start over at the root element `SCL`. -/
def dataTypeTemplates : Option XmlElement :=
  scl.firstChildElement "DataTypeTemplates"

/-- The elements of a name in the data type templates. -/
def templates (name : String) : List XmlElement :=
  match dataTypeTemplates scl with
  | none => []
  | some dtt => dtt.childElements name

/-- Without templates the loops find nothing, and so the lookups return what they
return early. -/
def getDoTypeId (lnType doName : Option String) : Except ParseFault String :=
  match lnType, doName with
  | some lnType, some doName =>
      (firstReturn (fun lnt =>
        whenEqual (lnt.attribute? "id") lnType
          (firstReturn (fun doElem =>
            whenEqual (doElem.attribute? "name") doName
              (.ok (some ((doElem.attribute? "type").getD ""))) none)
            (lnt.childElements "DO")) none)
        (templates scl "LNodeType")).map (·.getD "")
  | _, _ => .ok ""

def isControlClass (cdc : Option String) : Bool :=
  cdc = some "SPC" || cdc = some "DPC"

def isControlObject (doTypeId : String) : Except ParseFault Bool :=
  (firstReturn (fun doType =>
    whenEqual (doType.attribute? "id") doTypeId
      (.ok (some (isControlClass (doType.attribute? "cdc")))) none)
    (templates scl "DOType")).map (·.getD false)

def getFcFromDoType (lnType doName daName : Option String) :
    Except ParseFault String :=
  match lnType, doName, daName with
  | some lnType, some doName, some daName =>
      (firstReturn (fun lnt =>
        whenEqual (lnt.attribute? "id") lnType
          (firstReturn (fun doElem =>
            whenEqual (doElem.attribute? "name") doName
              (match doElem.attribute? "type" with
              | none => .ok none
              | some doTypeId =>
                  firstReturn (fun doType =>
                    whenEqual (doType.attribute? "id") doTypeId
                      (firstReturn (fun da =>
                        whenEqual (da.attribute? "name") daName
                          (.ok (some ((da.attribute? "fc").getD ""))) none)
                        (doType.childElements "DA")) none)
                    (templates scl "DOType")) none)
            (lnt.childElements "DO")) none)
        (templates scl "LNodeType")).map (·.getD "")
  | _, _, _ => .ok ""

/-- The node of an attribute that has a name and a functional constraint. -/
def attributeNode? (doPath : String) (da : XmlElement) : Option DataNode :=
  match da.attribute? "name", da.attribute? "fc" with
  | some daName, some fc => some { path := doPath ++ "." ++ daName, fc := fc }
  | _, _ => none

/-- The body of the loop over `DO` in `extractAllDoDa`. -/
def extractDo (lnRef : String) (doElem : XmlElement) :
    Except ParseFault (List DataNode) :=
  let doPath := lnRef ++ "." ++ (doElem.attribute? "name").getD ""
  match doElem.attribute? "type" with
  | none => .ok []
  | some doTypeId => do
      let control ← isControlObject scl doTypeId
      let attributes ← collect (fun doType =>
        whenEqual (doType.attribute? "id") doTypeId
          (.ok ((doType.childElements "DA").filterMap (attributeNode? doPath)))
          []) (templates scl "DOType")
      return (if control then [{ path := doPath, fc := "CO" }] else []) ++
        attributes

def extractAllDoDa (lnRef lnType : String) : Except ParseFault (List DataNode) :=
  collect (fun lnt =>
    whenEqual (lnt.attribute? "id") lnType
      (collect (extractDo scl lnRef) (lnt.childElements "DO")) [])
    (templates scl "LNodeType")

end Templates

/-- A logical node with what the loops around it have read. -/
structure LogicalNode where
  iedName : String
  ldInst : String
  element : XmlElement

namespace LogicalNode

variable (ln : LogicalNode)

def lnClass : String := (ln.element.attribute? "lnClass").getD ""

def inst : String := (ln.element.attribute? "inst").getD ""

def lnType : Option String := ln.element.attribute? "lnType"

def lnRef : String :=
  ln.iedName ++ ln.ldInst ++ "/" ++ ln.lnClass ++ ln.inst

end LogicalNode

/-- The logical nodes in the order of the loops over `IED`, `AccessPoint`,
`LDevice` and the children of the device.  Only the first `Server` of an access
point is looked at. -/
def logicalNodes (scl : XmlElement) : List LogicalNode :=
  (scl.childElements "IED").flatMap fun ied =>
    (ied.childElements "AccessPoint").flatMap fun ap =>
      match ap.firstChildElement "Server" with
      | none => []
      | some server =>
          (server.childElements "LDevice").flatMap fun lDevice =>
            (lDevice.children.filter fun ln =>
                ln.name = "LN" || ln.name = "LN0").map fun ln =>
              { iedName := (ied.attribute? "name").getD "UnknownIED"
                ldInst := (lDevice.attribute? "inst").getD "UnknownLDevice"
                element := ln }

section DataSets

def fcdaPath (iedName : String) (fcda : XmlElement) : String :=
  iedName ++ (fcda.attribute? "ldInst").getD "" ++ "/" ++
    (fcda.attribute? "lnClass").getD "" ++ (fcda.attribute? "lnInst").getD "" ++
    "." ++ (fcda.attribute? "doName").getD "" ++
    match fcda.attribute? "daName" with
    | none => ""
    | some daName => "." ++ daName

/-- An FCDA is listed if it has a functional constraint. -/
def fcdaNode? (iedName : String) (fcda : XmlElement) : Option DataNode :=
  (fcda.attribute? "fc").map fun fc =>
    { path := fcdaPath iedName fcda
      fc := fc }

def dataSetNodes (iedName : String) (ds : XmlElement) : List DataNode :=
  (ds.childElements "FCDA").filterMap (fcdaNode? iedName)

def dataSetInfo (iedName : String) (ds : XmlElement) : DataSetInfo :=
  { name := (ds.attribute? "name").getD ""
    fcdaPaths := (dataSetNodes iedName ds).map DataNode.path }

/-- `BoolAttribute` with the default `false`; `toBool` is the conversion of
tinyxml2. -/
def reportControlInfo (toBool : String → Option Bool) (rpt : XmlElement) :
    ReportControlInfo :=
  { name := (rpt.attribute? "name").getD ""
    datSet := (rpt.attribute? "datSet").getD ""
    buffered := ((rpt.attribute? "buffered").bind toBool).getD false }

end DataSets

section Instances

variable (scl : XmlElement) (ln : LogicalNode)

/-- The body of the loop over `DAI`. -/
def parseDai (doName : Option String) (dai : XmlElement) :
    Except ParseFault (List DataNode) :=
  (getFcFromDoType scl ln.lnType doName (dai.attribute? "name")).map fun fc =>
    if fc = "" then []
    else
      [{ path := ln.lnRef ++ "." ++ doName.getD "" ++ "." ++
          (dai.attribute? "name").getD ""
         fc := fc }]

/-- The control object of a `DOI`, if it is one. -/
def parseControl (doName : Option String) : Except ParseFault (List DataNode) := do
  let doTypeId ← getDoTypeId scl ln.lnType doName
  if doTypeId = "" then return []
  let control ← isControlObject scl doTypeId
  return if control then
    [{ path := ln.lnRef ++ "." ++ doName.getD "", fc := "CO" }] else []

/-- The body of the loop over `DOI`. -/
def parseDoi (doi : XmlElement) : Except ParseFault (List DataNode) := do
  let control ← parseControl scl ln (doi.attribute? "name")
  let attributes ← collect (parseDai scl ln (doi.attribute? "name"))
    (doi.childElements "DAI")
  return control ++ attributes

def instanceNodes : Except ParseFault (List DataNode) :=
  collect (parseDoi scl ln) (ln.element.childElements "DOI")

/-- The walk through the templates, for a type that is not empty. -/
def templateNodes : Except ParseFault (List DataNode) :=
  if ln.lnType.getD "" = "" then .ok []
  else extractAllDoDa scl ln.lnRef (ln.lnType.getD "")

def fcdaNodes : List DataNode :=
  (ln.element.childElements "DataSet").flatMap (dataSetNodes ln.iedName)

/-- The body of the loop over logical nodes: what it appends to `nodes`. -/
def parseLogicalNode : Except ParseFault (List DataNode) := do
  let instances ← instanceNodes scl ln
  let templates ← templateNodes scl ln
  return fcdaNodes ln ++ instances ++ templates

end Instances

/-- `parse` on the document that was loaded, if it was.  Data sets and reports
are read without any comparison. -/
def parse (toBool : String → Option Bool) (file : Option XmlDocument) :
    Except ParseFault ParseResult :=
  match file.bind (·.firstChildElement "SCL") with
  | none => .ok { nodes := [], dataSets := [], reports := [] }
  | some scl =>
      (collect (parseLogicalNode scl) (logicalNodes scl)).map fun nodes =>
        { nodes := nodes
          dataSets := (logicalNodes scl).flatMap fun ln =>
            (ln.element.childElements "DataSet").map (dataSetInfo ln.iedName)
          reports := (logicalNodes scl).flatMap fun ln =>
            (ln.element.childElements "ReportControl").map
              (reportControlInfo toBool) }

end DataGateway.Iec61850
