import DataGateway.Iec61850.IcdParser

/-!
# What the ICD parser reads

The lookups in the templates written as lists: the elements that carry a text,
and of these the first one.  Each function of the parser computes its list
exactly if no element that it comes to lacks the attribute it compares.
-/

namespace DataGateway.Iec61850

open Foundation

/-- The elements that have the text in an attribute. -/
def carrying (name text : String) (elements : List XmlElement) :
    List XmlElement :=
  elements.filter fun element => element.attribute? name = some text

/-- No element that a search by an attribute comes to lacks the attribute.  The
search ends at an element with the text if this stops it. -/
def SearchSafe (name text : String) (stops safe : XmlElement → Prop)
    (elements : List XmlElement) : Prop :=
  UpTo (fun element => element.attribute? name = some text ∧ stops element)
    (fun element => (element.attribute? name).isSome ∧
      (element.attribute? name = some text → safe element)) elements

/-- The same for a loop that goes through all elements. -/
def WalkSafe (name text : String) (safe : XmlElement → Prop)
    (elements : List XmlElement) : Prop :=
  ∀ element ∈ elements, (element.attribute? name).isSome ∧
    (element.attribute? name = some text → safe element)

private theorem flatMap_carrying {α : Type} (name text : String)
    (found : XmlElement → List α) (elements : List XmlElement) :
    (carrying name text elements).flatMap found =
      elements.flatMap fun element =>
        if element.attribute? name = some text then found element else [] := by
  induction elements with
  | nil => rfl
  | cons element elements induction =>
      rw [List.flatMap_cons, ← induction]
      by_cases same : element.attribute? name = some text
      · simp [carrying, same]
      · simp [carrying, same]

theorem carrying_flatMap (name text : String)
    (inner : XmlElement → List XmlElement) (elements : List XmlElement) :
    carrying name text (elements.flatMap inner) =
      elements.flatMap fun element => carrying name text (inner element) :=
  List.filter_flatMap

private theorem whenEqual_computes {α : Type} (compared : Option String) (text : String)
    {action : Except ParseFault α} {safe : Prop} {value otherwise : α}
    (computes : Computes action safe value) :
    Computes (whenEqual compared text action otherwise)
      (compared.isSome ∧ (compared = some text → safe))
      (if compared = some text then value else otherwise) := by
  cases compared with
  | none =>
      apply (Computes.fault _ _).congr
      · simp
      · rfl
  | some other =>
      apply (computes.ite (Computes.pure otherwise)).congr
      · simp
      · simp

section Loops

variable {α : Type} {name text : String} {elements : List XmlElement}
variable {stops safe : XmlElement → Prop} {found : XmlElement → List α}

theorem search_computes {body : XmlElement → Except ParseFault (Option α)}
    (stops_iff : ∀ element, stops element ↔ found element ≠ [])
    (computes : ∀ element,
      Computes (body element) (safe element) (found element).head?) :
    Computes (firstReturn (fun element =>
        whenEqual (element.attribute? name) text (body element) none) elements)
      (SearchSafe name text stops safe elements)
      ((carrying name text elements).flatMap found).head? := by
  rw [flatMap_carrying]
  apply Computes.firstReturn_head
  · intro element
    rw [stops_iff]
    by_cases same : element.attribute? name = some text
    · simp [same]
    · simp [same]
  · intro element _
    apply (whenEqual_computes _ text (computes element)).congr Iff.rfl
    split
    · rfl
    · rfl

private theorem walk_computes {body : XmlElement → Except ParseFault (List α)}
    (computes : ∀ element, Computes (body element) (safe element) (found element)) :
    Computes (collect (fun element =>
        whenEqual (element.attribute? name) text (body element) []) elements)
      (WalkSafe name text safe elements)
      ((carrying name text elements).flatMap found) := by
  rw [flatMap_carrying]
  apply Computes.collect
  intro element _
  exact whenEqual_computes _ text (computes element)

end Loops

private theorem searchSafe_of_forall {name text : String} {stops : XmlElement → Prop}
    {elements : List XmlElement}
    (present : ∀ element ∈ elements, (element.attribute? name).isSome) :
    SearchSafe name text stops (fun _ => True) elements := by
  apply upTo_of_forall
  exact fun element member => ⟨present element member, fun _ => trivial⟩

section Templates

variable (scl : XmlElement)

def typesOf (kind id : String) : List XmlElement :=
  carrying "id" id (templates scl kind)

/-- The data objects of a logical node type. -/
def objectsOf (lnType : String) : List XmlElement :=
  (typesOf scl "LNodeType" lnType).flatMap (·.childElements "DO")

/-- The attributes of the type of a data object. -/
def attributesOf (doElem : XmlElement) : List XmlElement :=
  match doElem.attribute? "type" with
  | none => []
  | some doTypeId =>
      (typesOf scl "DOType" doTypeId).flatMap (·.childElements "DA")

def doTypeIdOf (lnType doName : String) : String :=
  (((carrying "name" doName (objectsOf scl lnType)).map fun doElem =>
    (doElem.attribute? "type").getD "").head?).getD ""

/-- The first type of an id decides. -/
def isControl (doTypeId : String) : Bool :=
  (((typesOf scl "DOType" doTypeId).map fun doType =>
    isControlClass (doType.attribute? "cdc")).head?).getD false

def fcOf (lnType doName daName : String) : String :=
  (((carrying "name" daName
    ((carrying "name" doName (objectsOf scl lnType)).flatMap
      (attributesOf scl))).map fun da => (da.attribute? "fc").getD "").head?).getD ""

/-- The nodes of a data object in the templates. -/
def objectNodes (lnRef : String) (doElem : XmlElement) : List DataNode :=
  let doPath := lnRef ++ "." ++ (doElem.attribute? "name").getD ""
  (match doElem.attribute? "type" with
    | none => []
    | some doTypeId =>
        if isControl scl doTypeId then [{ path := doPath, fc := "CO" }] else []) ++
  (attributesOf scl doElem).filterMap (attributeNode? doPath)

/-- What `getDoTypeId` comes to has the ids and names it compares. -/
def DoTypeIdSafe (lnType doName : String) : Prop :=
  SearchSafe "id" lnType
    (fun lnt => carrying "name" doName (lnt.childElements "DO") ≠ [])
    (fun lnt => SearchSafe "name" doName (fun _ => True) (fun _ => True)
      (lnt.childElements "DO"))
    (templates scl "LNodeType")

def ControlObjectSafe (doTypeId : String) : Prop :=
  SearchSafe "id" doTypeId (fun _ => True) (fun _ => True)
    (templates scl "DOType")

def FcSafe (lnType doName daName : String) : Prop :=
  SearchSafe "id" lnType
    (fun lnt => (carrying "name" doName (lnt.childElements "DO")).flatMap
      (fun doElem => carrying "name" daName (attributesOf scl doElem)) ≠ [])
    (fun lnt => SearchSafe "name" doName
      (fun doElem => carrying "name" daName (attributesOf scl doElem) ≠ [])
      (fun doElem => ∀ doTypeId, doElem.attribute? "type" = some doTypeId →
        SearchSafe "id" doTypeId
          (fun doType => carrying "name" daName (doType.childElements "DA") ≠ [])
          (fun doType => SearchSafe "name" daName (fun _ => True) (fun _ => True)
            (doType.childElements "DA"))
          (templates scl "DOType"))
      (lnt.childElements "DO"))
    (templates scl "LNodeType")

/-- What `extractAllDoDa` comes to. -/
def ExtractSafe (lnType : String) : Prop :=
  WalkSafe "id" lnType
    (fun lnt => ∀ doElem ∈ lnt.childElements "DO",
      ∀ doTypeId, doElem.attribute? "type" = some doTypeId →
        ∀ doType ∈ templates scl "DOType", (doType.attribute? "id").isSome)
    (templates scl "LNodeType")

private theorem getDoTypeId_computes (lnType doName : String) :
    Computes (getDoTypeId scl (some lnType) (some doName))
      (DoTypeIdSafe scl lnType doName) (doTypeIdOf scl lnType doName) := by
  have value : doTypeIdOf scl lnType doName =
      ((typesOf scl "LNodeType" lnType).flatMap fun lnt =>
        (carrying "name" doName (lnt.childElements "DO")).flatMap fun doElem =>
          [(doElem.attribute? "type").getD ""]).head?.getD "" := by
    simp only [doTypeIdOf, objectsOf, List.map_eq_flatMap, carrying_flatMap,
      List.flatMap_assoc]
  rw [value]
  apply Computes.map
  apply search_computes
  · intro lnt
    simp [← List.map_eq_flatMap]
  · intro lnt
    apply search_computes
    · simp
    · intro doElem
      exact Computes.pure _

private theorem isControlObject_computes (doTypeId : String) :
    Computes (isControlObject scl doTypeId) (ControlObjectSafe scl doTypeId)
      (isControl scl doTypeId) := by
  rw [isControl, List.map_eq_flatMap]
  apply Computes.map
  apply search_computes
  · simp
  · intro doType
    exact Computes.pure _

private theorem getFcFromDoType_computes (lnType doName daName : String) :
    Computes (getFcFromDoType scl (some lnType) (some doName) (some daName))
      (FcSafe scl lnType doName daName) (fcOf scl lnType doName daName) := by
  have value : fcOf scl lnType doName daName =
      ((typesOf scl "LNodeType" lnType).flatMap fun lnt =>
        (carrying "name" doName (lnt.childElements "DO")).flatMap fun doElem =>
          (carrying "name" daName (attributesOf scl doElem)).flatMap fun da =>
            [(da.attribute? "fc").getD ""]).head?.getD "" := by
    simp only [fcOf, objectsOf, List.map_eq_flatMap, carrying_flatMap,
      List.flatMap_assoc]
  rw [value]
  apply Computes.map
  apply search_computes
  · intro lnt
    simp [← List.map_eq_flatMap]
  · intro lnt
    apply search_computes
    · intro doElem
      simp [← List.map_eq_flatMap]
    · intro doElem
      rw [attributesOf]
      cases named : doElem.attribute? "type" with
      | none => exact (Computes.pure _).congr (by simp) rfl
      | some doTypeId =>
          simp only [carrying_flatMap, List.flatMap_assoc, Option.some.injEq,
            forall_eq']
          apply search_computes
          · intro doType
            simp [← List.map_eq_flatMap]
          · intro doType
            apply search_computes
            · simp
            · intro da
              exact Computes.pure _

private theorem extractDo_computes (lnRef : String) (doElem : XmlElement) :
    Computes (extractDo scl lnRef doElem)
      (∀ doTypeId, doElem.attribute? "type" = some doTypeId →
        ∀ doType ∈ templates scl "DOType", (doType.attribute? "id").isSome)
      (objectNodes scl lnRef doElem) := by
  unfold extractDo objectNodes attributesOf
  cases named : doElem.attribute? "type" with
  | none => exact (Computes.pure _).congr (by simp) rfl
  | some doTypeId =>
      simp only [List.filterMap_flatMap]
      apply Computes.congr _ _ rfl
      · exact ControlObjectSafe scl doTypeId ∧
          WalkSafe "id" doTypeId (fun _ => True) (templates scl "DOType")
      · apply (isControlObject_computes scl doTypeId).bind
        apply Computes.bind_pure
        apply walk_computes
        intro doType
        exact Computes.pure _
      · constructor
        · intro safe other same
          cases Option.some.inj same
          exact fun doType member => (safe.2 doType member).1
        · intro ids
          have present := ids doTypeId rfl
          refine ⟨searchSafe_of_forall present, ?_⟩
          exact fun doType member => ⟨present doType member, fun _ => trivial⟩

private theorem extractAllDoDa_computes (lnRef lnType : String) :
    Computes (extractAllDoDa scl lnRef lnType) (ExtractSafe scl lnType)
      ((objectsOf scl lnType).flatMap (objectNodes scl lnRef)) := by
  rw [objectsOf, List.flatMap_assoc]
  apply walk_computes
  intro lnt
  apply Computes.collect
  intro doElem _
  exact extractDo_computes scl lnRef doElem

end Templates

section LogicalNodes

variable (scl : XmlElement) (ln : LogicalNode)

/-- The node of an instance of an attribute. -/
def daiNodes (lnType doName doPath : String) (dai : XmlElement) :
    List DataNode :=
  match dai.attribute? "name" with
  | none => []
  | some daName =>
      if fcOf scl lnType doName daName = "" then []
      else
        [{ path := doPath ++ "." ++ daName
           fc := fcOf scl lnType doName daName }]

/-- The nodes of an instance of a data object. -/
def doiNodes (doi : XmlElement) : List DataNode :=
  match ln.lnType, doi.attribute? "name" with
  | some lnType, some doName =>
      let doPath := ln.lnRef ++ "." ++ doName
      (if doTypeIdOf scl lnType doName ≠ "" ∧
          isControl scl (doTypeIdOf scl lnType doName) then
        [{ path := doPath, fc := "CO" }] else []) ++
      (doi.childElements "DAI").flatMap (daiNodes scl lnType doName doPath)
  | _, _ => []

def listedInstances : List DataNode :=
  (ln.element.childElements "DOI").flatMap (doiNodes scl ln)

/-- The nodes of the type of a logical node, if it has one that is not empty. -/
def listedObjects : List DataNode :=
  if ln.lnType.getD "" = "" then []
  else
    (objectsOf scl (ln.lnType.getD "")).flatMap (objectNodes scl ln.lnRef)

/-- The instance of a data object is looked up without a null pointer. -/
def DoiSafe (doi : XmlElement) : Prop :=
  ∀ lnType doName, ln.lnType = some lnType →
    doi.attribute? "name" = some doName →
      DoTypeIdSafe scl lnType doName ∧
      (∀ doElem,
        (carrying "name" doName (objectsOf scl lnType)).head? = some doElem →
        ∀ doTypeId, doElem.attribute? "type" = some doTypeId → doTypeId ≠ "" →
          ControlObjectSafe scl doTypeId) ∧
      ∀ dai ∈ doi.childElements "DAI", ∀ daName,
        dai.attribute? "name" = some daName → FcSafe scl lnType doName daName

def LogicalNodeSafe : Prop :=
  (∀ doi ∈ ln.element.childElements "DOI", DoiSafe scl ln doi) ∧
    (ln.lnType.getD "" ≠ "" → ExtractSafe scl (ln.lnType.getD ""))

theorem controlObjectSafe_doTypeIdOf_iff (lnType doName : String) :
    (doTypeIdOf scl lnType doName ≠ "" →
        ControlObjectSafe scl (doTypeIdOf scl lnType doName)) ↔
      ∀ doElem,
        (carrying "name" doName (objectsOf scl lnType)).head? = some doElem →
        ∀ doTypeId, doElem.attribute? "type" = some doTypeId → doTypeId ≠ "" →
          ControlObjectSafe scl doTypeId := by
  unfold doTypeIdOf
  rw [List.head?_map]
  cases (carrying "name" doName (objectsOf scl lnType)).head? with
  | none => simp
  | some doElem =>
      cases typed : doElem.attribute? "type" with
      | none => simp [typed]
      | some doTypeId => simp [typed]

private theorem parseControl_computes (lnType doName : String)
    (typed : ln.lnType = some lnType) :
    Computes (parseControl scl ln (some doName))
      (DoTypeIdSafe scl lnType doName ∧
        (doTypeIdOf scl lnType doName ≠ "" →
          ControlObjectSafe scl (doTypeIdOf scl lnType doName)))
      (if doTypeIdOf scl lnType doName ≠ "" ∧
          isControl scl (doTypeIdOf scl lnType doName) then
        [{ path := ln.lnRef ++ "." ++ doName, fc := "CO" }] else []) := by
  unfold parseControl
  rw [typed]
  apply (getDoTypeId_computes scl lnType doName).bind
  generalize doTypeIdOf scl lnType doName = doTypeId
  by_cases empty : doTypeId = ""
  · rw [if_pos empty]
    exact (Computes.pure []).congr (by simp [empty]) (by simp [empty])
  · rw [if_neg empty]
    apply ((isControlObject_computes scl doTypeId).bind_pure _).congr
    · simp [empty]
    · simp [empty]

private theorem parseDai_computes (lnType doName : String)
    (typed : ln.lnType = some lnType) (dai : XmlElement) :
    Computes (parseDai scl ln (some doName) dai)
      (∀ daName, dai.attribute? "name" = some daName →
        FcSafe scl lnType doName daName)
      (daiNodes scl lnType doName (ln.lnRef ++ "." ++ doName) dai) := by
  unfold parseDai daiNodes
  rw [typed]
  cases named : dai.attribute? "name" with
  | none => exact (Computes.pure []).congr (by simp) rfl
  | some daName =>
      apply ((getFcFromDoType_computes scl lnType doName daName).map _).congr
      · simp
      · rfl

theorem parseDoi_missing {doi : XmlElement}
    (missing : ln.lnType = none ∨ doi.attribute? "name" = none) :
    Computes (parseDoi scl ln doi) True [] := by
  have untyped : getDoTypeId scl ln.lnType (doi.attribute? "name") = .ok "" := by
    rcases missing with none | none
    · simp [getDoTypeId, none]
    · simp [getDoTypeId, none]
  have control : Computes (parseControl scl ln (doi.attribute? "name")) True [] := by
    unfold parseControl
    rw [untyped]
    exact Computes.pure []
  have attributes : ∀ dai ∈ doi.childElements "DAI",
      Computes (parseDai scl ln (doi.attribute? "name") dai) True [] := by
    intro dai _
    have unconstrained : getFcFromDoType scl ln.lnType (doi.attribute? "name")
        (dai.attribute? "name") = .ok "" := by
      rcases missing with none | none
      · simp [getFcFromDoType, none]
      · simp [getFcFromDoType, none]
    unfold parseDai
    rw [unconstrained]
    exact Computes.pure []
  apply (control.bind ((Computes.collect attributes).bind_pure _)).congr
  · simp
  · simp

private theorem parseDoi_computes (doi : XmlElement) :
    Computes (parseDoi scl ln doi) (DoiSafe scl ln doi) (doiNodes scl ln doi) := by
  unfold doiNodes DoiSafe
  cases typed : ln.lnType with
  | none => exact (parseDoi_missing scl ln (Or.inl typed)).congr (by simp) rfl
  | some lnType =>
      cases named : doi.attribute? "name" with
      | none => exact (parseDoi_missing scl ln (Or.inr named)).congr (by simp) rfl
      | some doName =>
          have control := parseControl_computes scl ln lnType doName typed
          have attributes := Computes.collect
            (fun dai (_ : dai ∈ doi.childElements "DAI") =>
              parseDai_computes scl ln lnType doName typed dai)
          unfold parseDoi
          rw [named]
          apply (control.bind (attributes.bind_pure _)).congr
          · rw [controlObjectSafe_doTypeIdOf_iff]
            simp [and_assoc]
          · rfl

theorem instanceNodes_computes :
    Computes (instanceNodes scl ln)
      (∀ doi ∈ ln.element.childElements "DOI", DoiSafe scl ln doi)
      (listedInstances scl ln) := by
  apply Computes.collect
  intro doi _
  exact parseDoi_computes scl ln doi

theorem templateNodes_computes :
    Computes (templateNodes scl ln)
      (ln.lnType.getD "" ≠ "" → ExtractSafe scl (ln.lnType.getD ""))
      (listedObjects scl ln) := by
  have walk := extractAllDoDa_computes scl ln.lnRef (ln.lnType.getD "")
  apply ((Computes.pure []).ite walk).congr
  · simp
  · rfl

private theorem parseLogicalNode_computes :
    Computes (parseLogicalNode scl ln) (LogicalNodeSafe scl ln)
      (fcdaNodes ln ++ listedInstances scl ln ++ listedObjects scl ln) := by
  apply (instanceNodes_computes scl ln).bind
  exact (templateNodes_computes scl ln).bind_pure _

end LogicalNodes

/-- No attribute that the parser compares is missing. -/
def NullFree (scl : XmlElement) : Prop :=
  ∀ ln ∈ logicalNodes scl, LogicalNodeSafe scl ln

def listedNodes (scl : XmlElement) : List DataNode :=
  (logicalNodes scl).flatMap fun ln =>
    fcdaNodes ln ++ listedInstances scl ln ++ listedObjects scl ln

theorem mem_fcdaNodes_iff {ln : LogicalNode} {node : DataNode} :
    node ∈ fcdaNodes ln ↔
      ∃ ds fcda, ds ∈ ln.element.childElements "DataSet" ∧
        fcda ∈ ds.childElements "FCDA" ∧ ∃ fc, fcda.attribute? "fc" = some fc ∧
          node = { path := fcdaPath ln.iedName fcda, fc := fc } := by
  simp only [fcdaNodes, dataSetNodes, fcdaNode?, List.mem_flatMap,
    List.mem_filterMap, Option.map_eq_some_iff]
  constructor
  · intro listed
    obtain ⟨ds, set, fcda, entry, fc, constrained, same⟩ := listed
    exact ⟨ds, fcda, set, entry, fc, constrained, same.symm⟩
  · intro listed
    obtain ⟨ds, fcda, set, entry, fc, constrained, same⟩ := listed
    exact ⟨ds, set, fcda, entry, fc, constrained, same.symm⟩

theorem parse_computes {toBool : String → Option Bool} {file : Option XmlDocument}
    {scl : XmlElement} (read : file.bind (·.firstChildElement "SCL") = some scl) :
    Computes (parse toBool file) (NullFree scl)
      { nodes := listedNodes scl
        dataSets := (logicalNodes scl).flatMap fun ln =>
          (ln.element.childElements "DataSet").map (dataSetInfo ln.iedName)
        reports := (logicalNodes scl).flatMap fun ln =>
          (ln.element.childElements "ReportControl").map
            (reportControlInfo toBool) } := by
  unfold parse
  rw [read]
  have nodes := Computes.collect fun ln (_ : ln ∈ logicalNodes scl) =>
    parseLogicalNode_computes scl ln
  exact nodes.map _

/-- The parser returns exactly if no attribute that it compares is missing. -/
theorem parse_returns_iff_nullFree (toBool : String → Option Bool)
    (file : Option XmlDocument) :
    (∃ result, parse toBool file = .ok result) ↔
      ∀ scl, file.bind (·.firstChildElement "SCL") = some scl → NullFree scl := by
  cases read : file.bind (·.firstChildElement "SCL") with
  | none =>
      constructor
      · intro _ scl same
        cases same
      · intro _
        refine ⟨{ nodes := [], dataSets := [], reports := [] }, ?_⟩
        simp [parse, read]
  | some scl =>
      rw [(parse_computes read).completes_iff]
      simp

/-- A device with one logical device. -/
def deviceOf (iedName ldInst : String) (lns : List XmlElement) : XmlElement :=
  { name := "IED"
    attributes := [("name", iedName)]
    children := [{ name := "AccessPoint", attributes := [], children :=
      [{ name := "Server", attributes := [], children :=
        [{ name := "LDevice", attributes := [("inst", ldInst)], children := lns }] }] }] }

def fileOf (devices templates : List XmlElement) : XmlDocument :=
  { elements := [{ name := "SCL", attributes := [], children := devices ++
      [{ name := "DataTypeTemplates", attributes := [], children := templates }] }] }

/-- The type of the only logical node is compared with the missing id of a type. -/
def fileWithoutId : XmlDocument :=
  fileOf
    [deviceOf "Gateway" "LD1"
      [{ name := "LN0", attributes := [("lnClass", "LLN0"), ("lnType", "Zero")]
         children := [] }]]
    [{ name := "LNodeType", attributes := [("lnClass", "LLN0")], children := [] }]

theorem missing_id_is_compared :
    ¬∀ (toBool : String → Option Bool) (document : XmlDocument),
      ∃ result, parse toBool (some document) = .ok result := by
  intro returns
  obtain ⟨result, done⟩ := returns (fun _ => none) fileWithoutId
  have fails : parse (fun _ => none) (some fileWithoutId) = .error .nullPointer :=
    rfl
  rw [fails] at done
  cases done

end DataGateway.Iec61850
