import DataGateway.Iec61850.IcdLookups

/-!
# The nodes of an ICD file

What a file lists by its elements alone: entries of data sets, and attributes
and control objects of the types of its logical nodes.  In a file whose types
have ids and names the parser finds exactly these.
-/

namespace DataGateway.Iec61850

open Foundation

section Specification

variable (scl : XmlElement)

/-- A logical node of any server. -/
def HasLogicalNode (ln : LogicalNode) : Prop :=
  ∃ ied ∈ scl.childElements "IED", ∃ ap ∈ ied.childElements "AccessPoint",
    ∃ server ∈ ap.childElements "Server",
      ∃ lDevice ∈ server.childElements "LDevice",
        ∃ element ∈ lDevice.children,
          (element.name = "LN" ∨ element.name = "LN0") ∧
          ln = { iedName := (ied.attribute? "name").getD "UnknownIED"
                 ldInst := (lDevice.attribute? "inst").getD "UnknownLDevice"
                 element := element }

/-- The types of a kind in all sections of templates. -/
def allTemplates (kind : String) : List XmlElement :=
  (scl.childElements "DataTypeTemplates").flatMap (·.childElements kind)

/-- A data object in a type of the logical node. -/
structure HasObject (ln : LogicalNode) (doName doTypeId : String) : Prop where
  found : ∃ lnType, ln.lnType = some lnType ∧ lnType ≠ "" ∧
    ∃ lnt ∈ allTemplates scl "LNodeType", lnt.attribute? "id" = some lnType ∧
      ∃ doElem ∈ lnt.childElements "DO",
        doElem.attribute? "name" = some doName ∧
        doElem.attribute? "type" = some doTypeId

/-- The nodes that the file lists. -/
inductive Listed : DataNode → Prop
  | fcda {ln : LogicalNode} {ds fcda : XmlElement} {fc : String}
      (node : HasLogicalNode scl ln) (set : ds ∈ ln.element.childElements "DataSet")
      (entry : fcda ∈ ds.childElements "FCDA")
      (constraint : fcda.attribute? "fc" = some fc) :
      Listed { path := fcdaPath ln.iedName fcda, fc := fc }
  | dataAttribute {ln : LogicalNode} {doName doTypeId daName fc : String}
      {doType da : XmlElement} (node : HasLogicalNode scl ln)
      (object : HasObject scl ln doName doTypeId)
      (type : doType ∈ allTemplates scl "DOType")
      (id : doType.attribute? "id" = some doTypeId)
      (member : da ∈ doType.childElements "DA")
      (name : da.attribute? "name" = some daName)
      (constraint : da.attribute? "fc" = some fc) :
      Listed { path := ln.lnRef ++ "." ++ doName ++ "." ++ daName, fc := fc }
  | controlObject {ln : LogicalNode} {doName doTypeId : String} {doType : XmlElement}
      (node : HasLogicalNode scl ln) (object : HasObject scl ln doName doTypeId)
      (first : (allTemplates scl "DOType").find?
        (fun type => type.attribute? "id" = some doTypeId) = some doType)
      (controlled : doType.attribute? "cdc" = some "SPC" ∨
        doType.attribute? "cdc" = some "DPC") :
      Listed { path := ln.lnRef ++ "." ++ doName, fc := "CO" }

def Filled (name : String) (element : XmlElement) : Prop :=
  ∃ value, element.attribute? name = some value ∧ value ≠ ""

/-- One server for each access point, one section of templates, and in it no
id and no name that is missing or empty. -/
structure Identified : Prop where
  servers : ∀ ied ∈ scl.childElements "IED",
    ∀ ap ∈ ied.childElements "AccessPoint",
      (ap.childElements "Server").length ≤ 1
  sections : (scl.childElements "DataTypeTemplates").length ≤ 1
  lNodeTypes : ∀ lnt ∈ allTemplates scl "LNodeType", Filled "id" lnt
  objects : ∀ lnt ∈ allTemplates scl "LNodeType",
    ∀ doElem ∈ lnt.childElements "DO", Filled "name" doElem
  doTypes : ∀ doType ∈ allTemplates scl "DOType", Filled "id" doType
  attributes : ∀ doType ∈ allTemplates scl "DOType",
    ∀ da ∈ doType.childElements "DA", Filled "name" da

end Specification

private theorem mem_iff_head?_eq_of_length_le_one {α : Type} {items : List α}
    (single : items.length ≤ 1) (item : α) :
    item ∈ items ↔ items.head? = some item := by
  match items, single with
  | [], _ => simp
  | [other], _ => simp [eq_comm]

theorem mem_carrying_iff {name text : String} {elements : List XmlElement}
    {element : XmlElement} :
    element ∈ carrying name text elements ↔
      element ∈ elements ∧ element.attribute? name = some text := by
  simp [carrying]

section Lookups

variable {scl : XmlElement}

theorem mem_logicalNodes_iff
    (single : ∀ ied ∈ scl.childElements "IED",
      ∀ ap ∈ ied.childElements "AccessPoint",
        (ap.childElements "Server").length ≤ 1)
    (ln : LogicalNode) : ln ∈ logicalNodes scl ↔ HasLogicalNode scl ln := by
  unfold logicalNodes HasLogicalNode
  simp only [List.mem_flatMap]
  refine exists_congr fun ied => and_congr_right fun iedMember => ?_
  refine exists_congr fun ap => and_congr_right fun apMember => ?_
  have onlyServer := mem_iff_head?_eq_of_length_le_one
    (single ied iedMember ap apMember)
  rw [XmlElement.firstChildElement]
  cases first : (ap.childElements "Server").head? with
  | none => simp [onlyServer, first]
  | some server =>
      simp [onlyServer, first, and_assoc, @eq_comm _ ln]

private theorem templates_eq_allTemplates
    (single : (scl.childElements "DataTypeTemplates").length ≤ 1)
    (kind : String) : templates scl kind = allTemplates scl kind := by
  unfold templates dataTypeTemplates allTemplates XmlElement.firstChildElement
  match scl.childElements "DataTypeTemplates", single with
  | [], _ => rfl
  | [dtt], _ => simp

theorem doTypeIdOf_found {lnType doName : String}
    (found : doTypeIdOf scl lnType doName ≠ "") :
    ∃ doElem ∈ objectsOf scl lnType, doElem.attribute? "name" = some doName ∧
      doElem.attribute? "type" = some (doTypeIdOf scl lnType doName) := by
  unfold doTypeIdOf at found ⊢
  rw [List.head?_map] at found ⊢
  cases first : (carrying "name" doName (objectsOf scl lnType)).head? with
  | none => simp [first] at found
  | some doElem =>
      have member := mem_carrying_iff.mp (List.mem_of_mem_head? first)
      refine ⟨doElem, member.1, member.2, ?_⟩
      cases typed : doElem.attribute? "type" with
      | none => simp [first, typed] at found
      | some doTypeId => simp [typed]

theorem fcOf_found {lnType doName daName : String}
    (found : fcOf scl lnType doName daName ≠ "") :
    ∃ doElem ∈ objectsOf scl lnType, doElem.attribute? "name" = some doName ∧
      ∃ da ∈ attributesOf scl doElem, da.attribute? "name" = some daName ∧
        da.attribute? "fc" = some (fcOf scl lnType doName daName) := by
  unfold fcOf at found ⊢
  rw [List.head?_map] at found ⊢
  cases first : (carrying "name" daName
      ((carrying "name" doName (objectsOf scl lnType)).flatMap
        (attributesOf scl))).head? with
  | none => simp [first] at found
  | some da =>
      obtain ⟨daMember, daNamed⟩ :=
        mem_carrying_iff.mp (List.mem_of_mem_head? first)
      obtain ⟨doElem, doMember, ofObject⟩ := List.mem_flatMap.mp daMember
      obtain ⟨object, doNamed⟩ := mem_carrying_iff.mp doMember
      refine ⟨doElem, object, doNamed, da, ofObject, daNamed, ?_⟩
      cases constrained : da.attribute? "fc" with
      | none => simp [first, constrained] at found
      | some fc => simp [constrained]

private theorem mem_objectsOf_iff {lnType : String} {doElem : XmlElement} :
    doElem ∈ objectsOf scl lnType ↔
      ∃ lnt ∈ templates scl "LNodeType", lnt.attribute? "id" = some lnType ∧
        doElem ∈ lnt.childElements "DO" := by
  simp [objectsOf, typesOf, mem_carrying_iff, and_assoc]

private theorem mem_attributesOf_iff {doElem da : XmlElement} :
    da ∈ attributesOf scl doElem ↔
      ∃ doTypeId, doElem.attribute? "type" = some doTypeId ∧
        ∃ doType ∈ templates scl "DOType",
          doType.attribute? "id" = some doTypeId ∧
          da ∈ doType.childElements "DA" := by
  unfold attributesOf
  cases typed : doElem.attribute? "type" with
  | none => simp
  | some doTypeId => simp [typesOf, mem_carrying_iff, and_assoc]

private theorem isControl_iff {doTypeId : String} :
    isControl scl doTypeId ↔
      ∃ doType, (templates scl "DOType").find?
          (fun type => type.attribute? "id" = some doTypeId) = some doType ∧
        (doType.attribute? "cdc" = some "SPC" ∨
          doType.attribute? "cdc" = some "DPC") := by
  unfold isControl typesOf carrying
  rw [List.head?_map, List.head?_filter]
  cases (templates scl "DOType").find?
      fun type => type.attribute? "id" = some doTypeId with
  | none => simp
  | some doType => simp [isControlClass]

theorem mem_listedObjects_iff {ln : LogicalNode} {node : DataNode} :
    node ∈ listedObjects scl ln ↔
      ∃ lnType, ln.lnType = some lnType ∧ lnType ≠ "" ∧
        ∃ doElem ∈ objectsOf scl lnType, node ∈ objectNodes scl ln.lnRef doElem := by
  unfold listedObjects
  cases typed : ln.lnType with
  | none => simp
  | some lnType =>
      by_cases empty : lnType = ""
      · simp [empty]
      · simp [empty]

theorem mem_objectNodes_iff {lnRef : String} {doElem : XmlElement} {node : DataNode} :
    node ∈ objectNodes scl lnRef doElem ↔
      (∃ doTypeId, doElem.attribute? "type" = some doTypeId ∧
        isControl scl doTypeId ∧
        node = { path := lnRef ++ "." ++ (doElem.attribute? "name").getD ""
                 fc := "CO" }) ∨
      ∃ da ∈ attributesOf scl doElem, ∃ daName fc,
        da.attribute? "name" = some daName ∧ da.attribute? "fc" = some fc ∧
        node = { path := lnRef ++ "." ++ (doElem.attribute? "name").getD "" ++
                   "." ++ daName
                 fc := fc } := by
  unfold objectNodes
  rw [List.mem_append]
  apply or_congr
  · cases typed : doElem.attribute? "type" with
    | none => simp
    | some doTypeId => simp
  · rw [List.mem_filterMap]
    refine exists_congr fun da => and_congr_right fun _ => ?_
    unfold attributeNode?
    cases named : da.attribute? "name" with
    | none => simp
    | some daName =>
        cases constrained : da.attribute? "fc" with
        | none => simp
        | some fc => simp [eq_comm]

theorem mem_daiNodes_iff {lnType doName doPath : String} {dai : XmlElement}
    {node : DataNode} :
    node ∈ daiNodes scl lnType doName doPath dai ↔
      ∃ daName, dai.attribute? "name" = some daName ∧
        fcOf scl lnType doName daName ≠ "" ∧
        node = { path := doPath ++ "." ++ daName
                 fc := fcOf scl lnType doName daName } := by
  unfold daiNodes
  cases dai.attribute? "name" with
  | none => simp
  | some daName => simp

theorem mem_doiNodes_iff {ln : LogicalNode} {lnType : String}
    (typed : ln.lnType = some lnType) {doi : XmlElement} {node : DataNode} :
    node ∈ doiNodes scl ln doi ↔
      ∃ doName, doi.attribute? "name" = some doName ∧
        ((doTypeIdOf scl lnType doName ≠ "" ∧
            isControl scl (doTypeIdOf scl lnType doName) = true) ∧
            node = { path := ln.lnRef ++ "." ++ doName, fc := "CO" } ∨
          ∃ dai ∈ doi.childElements "DAI",
            node ∈ daiNodes scl lnType doName (ln.lnRef ++ "." ++ doName) dai) := by
  unfold doiNodes
  rw [typed]
  cases doi.attribute? "name" with
  | none => simp
  | some doName =>
      simp only [List.mem_append, List.mem_flatMap, List.mem_ite_nil_right,
        List.mem_singleton, Option.some.injEq, exists_eq_left']

theorem doiNodes_subset {ln : LogicalNode} {lnType : String}
    (typed : ln.lnType = some lnType) (doi : XmlElement) :
    doiNodes scl ln doi ⊆
      (objectsOf scl lnType).flatMap (objectNodes scl ln.lnRef) := by
  intro node member
  apply List.mem_flatMap.mpr
  obtain ⟨doName, _, control | attribute_⟩ := (mem_doiNodes_iff typed).mp member
  · obtain ⟨decided, same⟩ := control
    obtain ⟨doElem, object, doNamed, doTyped⟩ := doTypeIdOf_found decided.1
    refine ⟨doElem, object, mem_objectNodes_iff.mpr (Or.inl ?_)⟩
    refine ⟨_, doTyped, decided.2, ?_⟩
    rw [doNamed]
    exact same
  · obtain ⟨dai, _, inInstance⟩ := attribute_
    obtain ⟨daName, _, constrained, same⟩ := mem_daiNodes_iff.mp inInstance
    obtain ⟨doElem, object, doNamed, da, ofObject, sameName, fc⟩ :=
      fcOf_found constrained
    refine ⟨doElem, object, mem_objectNodes_iff.mpr (Or.inr ?_)⟩
    refine ⟨da, ofObject, daName, _, sameName, fc, ?_⟩
    rw [doNamed]
    exact same

instance Filled.decidable (name : String) (element : XmlElement) :
    Decidable (Filled name element) :=
  decidable_of_iff ((element.attribute? name).any fun value => value ≠ "") <| by
    simp [Filled, Option.any_eq_true]

theorem instances_subset_of_nonempty {ln : LogicalNode}
    (nonempty : ln.lnType.getD "" ≠ "") :
    listedInstances scl ln ⊆ listedObjects scl ln := by
  intro node member
  obtain ⟨doi, _, inInstance⟩ := List.mem_flatMap.mp member
  cases typed : ln.lnType with
  | none => simp [typed] at nonempty
  | some lnType =>
      rw [typed, Option.getD_some] at nonempty
      have inObjects := doiNodes_subset typed doi inInstance
      obtain ⟨doElem, object, inNodes⟩ := List.mem_flatMap.mp inObjects
      exact mem_listedObjects_iff.mpr
        ⟨lnType, typed, nonempty, doElem, object, inNodes⟩

theorem Filled.isSome {name : String} {element : XmlElement}
    (filled : Filled name element) : (element.attribute? name).isSome := by
  obtain ⟨value, present, _⟩ := filled
  rw [present]
  rfl

end Lookups

section Searches

variable {name text : String} {stops safe : XmlElement → Prop}
variable {elements : List XmlElement}

theorem SearchSafe.of_filled
    (filled : ∀ element ∈ elements, Filled name element)
    (inner : ∀ element ∈ elements, safe element) :
    SearchSafe name text stops safe elements := by
  apply upTo_of_forall
  intro element member
  exact ⟨(filled element member).isSome, fun _ => inner element member⟩

end Searches

namespace Identified

variable {scl : XmlElement} (identified : Identified scl)
include identified

theorem templates_eq (kind : String) :
    templates scl kind = allTemplates scl kind :=
  templates_eq_allTemplates identified.sections kind

private theorem doTypeIdSafe (lnType doName : String) :
    DoTypeIdSafe scl lnType doName := by
  unfold DoTypeIdSafe
  rw [identified.templates_eq]
  apply SearchSafe.of_filled identified.lNodeTypes
  intro lnt member
  apply SearchSafe.of_filled (identified.objects lnt member)
  exact fun _ _ => trivial

private theorem controlObjectSafe (doTypeId : String) :
    ControlObjectSafe scl doTypeId := by
  unfold ControlObjectSafe
  rw [identified.templates_eq]
  apply SearchSafe.of_filled identified.doTypes
  exact fun _ _ => trivial

private theorem fcSafe (lnType doName daName : String) :
    FcSafe scl lnType doName daName := by
  unfold FcSafe
  rw [identified.templates_eq, identified.templates_eq]
  apply SearchSafe.of_filled identified.lNodeTypes
  intro lnt member
  apply SearchSafe.of_filled (identified.objects lnt member)
  intro doElem _ doTypeId _
  apply SearchSafe.of_filled identified.doTypes
  intro doType typeMember
  apply SearchSafe.of_filled (identified.attributes doType typeMember)
  exact fun _ _ => trivial

private theorem extractSafe (lnType : String) : ExtractSafe scl lnType := by
  unfold ExtractSafe
  rw [identified.templates_eq, identified.templates_eq]
  intro lnt member
  refine ⟨(identified.lNodeTypes lnt member).isSome, ?_⟩
  intro _ doElem _ doTypeId _ doType typeMember
  exact (identified.doTypes doType typeMember).isSome

private theorem logicalNodeSafe (ln : LogicalNode) : LogicalNodeSafe scl ln := by
  constructor
  · intro doi _ lnType doName _ _
    refine ⟨identified.doTypeIdSafe lnType doName, ?_, ?_⟩
    · exact fun _ _ doTypeId _ _ => identified.controlObjectSafe doTypeId
    · exact fun dai _ daName _ => identified.fcSafe lnType doName daName
  · exact fun _ => identified.extractSafe _

private theorem nullFree : NullFree scl :=
  fun ln _ => identified.logicalNodeSafe ln

theorem objectsOf_empty : objectsOf scl "" = [] := by
  unfold objectsOf typesOf
  rw [List.flatMap_eq_nil_iff]
  intro lnt member
  obtain ⟨inTemplates, empty⟩ := mem_carrying_iff.mp member
  rw [identified.templates_eq] at inTemplates
  obtain ⟨id, present, nonempty⟩ := identified.lNodeTypes lnt inTemplates
  rw [present] at empty
  exact absurd (Option.some.inj empty) nonempty

theorem instances_subset (ln : LogicalNode) :
    listedInstances scl ln ⊆ listedObjects scl ln := by
  by_cases empty : ln.lnType.getD "" = ""
  · intro node member
    obtain ⟨doi, _, inInstance⟩ := List.mem_flatMap.mp member
    cases typed : ln.lnType with
    | none => simp [doiNodes, typed] at inInstance
    | some lnType =>
        rw [typed, Option.getD_some] at empty
        have inObjects := doiNodes_subset typed doi inInstance
        rw [empty, identified.objectsOf_empty] at inObjects
        cases inObjects
  · exact instances_subset_of_nonempty empty

private theorem hasObject_iff {ln : LogicalNode} {doName doTypeId : String} :
    HasObject scl ln doName doTypeId ↔
      ∃ lnType, ln.lnType = some lnType ∧ lnType ≠ "" ∧
        ∃ doElem ∈ objectsOf scl lnType,
          doElem.attribute? "name" = some doName ∧
          doElem.attribute? "type" = some doTypeId := by
  simp only [mem_objectsOf_iff, identified.templates_eq]
  constructor
  · intro object
    obtain ⟨lnType, typed, nonempty, lnt, inTemplates, id, doElem, member, both⟩ :=
      object.found
    exact ⟨lnType, typed, nonempty, doElem, ⟨lnt, inTemplates, id, member⟩, both⟩
  · intro object
    obtain ⟨lnType, typed, nonempty, doElem, found, both⟩ := object
    obtain ⟨lnt, inTemplates, id, member⟩ := found
    exact ⟨lnType, typed, nonempty, lnt, inTemplates, id, doElem, member, both⟩

theorem named_of_mem_objectsOf {lnType : String} {doElem : XmlElement}
    (member : doElem ∈ objectsOf scl lnType) :
    ∃ doName, doElem.attribute? "name" = some doName := by
  obtain ⟨lnt, inTemplates, _, inType⟩ := mem_objectsOf_iff.mp member
  rw [identified.templates_eq] at inTemplates
  obtain ⟨doName, named, _⟩ := identified.objects lnt inTemplates doElem inType
  exact ⟨doName, named⟩

private theorem listed_of_mem_listedObjects {ln : LogicalNode} {node : DataNode}
    (present : HasLogicalNode scl ln) (member : node ∈ listedObjects scl ln) :
    Listed scl node := by
  obtain ⟨lnType, typed, nonempty, doElem, object, inNodes⟩ :=
    mem_listedObjects_iff.mp member
  obtain ⟨doName, named⟩ := identified.named_of_mem_objectsOf object
  have hasObject : ∀ doTypeId, doElem.attribute? "type" = some doTypeId →
      HasObject scl ln doName doTypeId := by
    intro doTypeId doTyped
    exact identified.hasObject_iff.mpr
      ⟨lnType, typed, nonempty, doElem, object, named, doTyped⟩
  rcases mem_objectNodes_iff.mp inNodes with control | attribute_
  · obtain ⟨doTypeId, doTyped, controlled, same⟩ := control
    obtain ⟨doType, first, cdc⟩ := isControl_iff.mp controlled
    rw [identified.templates_eq] at first
    rw [same, named]
    exact Listed.controlObject present (hasObject doTypeId doTyped) first cdc
  · obtain ⟨da, ofObject, daName, fc, daNamed, constrained, same⟩ := attribute_
    obtain ⟨doTypeId, doTyped, doType, inTemplates, id, inType⟩ :=
      mem_attributesOf_iff.mp ofObject
    rw [identified.templates_eq] at inTemplates
    rw [same, named]
    exact Listed.dataAttribute present (hasObject doTypeId doTyped) inTemplates id
      inType daNamed constrained

private theorem mem_listedObjects_of_hasObject {ln : LogicalNode}
    {doName doTypeId : String} {node : DataNode}
    (object : HasObject scl ln doName doTypeId)
    (inNodes : ∀ doElem, doElem.attribute? "name" = some doName →
      doElem.attribute? "type" = some doTypeId →
      node ∈ objectNodes scl ln.lnRef doElem) :
    node ∈ listedObjects scl ln := by
  obtain ⟨lnType, typed, nonempty, doElem, member, named, doTyped⟩ :=
    identified.hasObject_iff.mp object
  apply mem_listedObjects_iff.mpr
  exact ⟨lnType, typed, nonempty, doElem, member, inNodes doElem named doTyped⟩

private theorem mem_listedNodes_iff (node : DataNode) :
    node ∈ listedNodes scl ↔ Listed scl node := by
  constructor
  · intro member
    obtain ⟨ln, lnMember, inNode⟩ := List.mem_flatMap.mp member
    have present := (mem_logicalNodes_iff identified.servers ln).mp lnMember
    rcases List.mem_append.mp inNode with before | object
    · rcases List.mem_append.mp before with fcda | inInstance
      · obtain ⟨ds, fcda, set, entry, fc, constrained, same⟩ :=
          mem_fcdaNodes_iff.mp fcda
        rw [same]
        exact Listed.fcda present set entry constrained
      · exact identified.listed_of_mem_listedObjects present
          (identified.instances_subset ln inInstance)
    · exact identified.listed_of_mem_listedObjects present object
  · intro listed
    unfold listedNodes
    rw [List.mem_flatMap]
    cases listed with
    | fcda present set entry constrained =>
        refine ⟨_, (mem_logicalNodes_iff identified.servers _).mpr present, ?_⟩
        apply List.mem_append_left
        apply List.mem_append_left
        exact mem_fcdaNodes_iff.mpr ⟨_, _, set, entry, _, constrained, rfl⟩
    | dataAttribute present object type id inType named constrained =>
        refine ⟨_, (mem_logicalNodes_iff identified.servers _).mpr present, ?_⟩
        apply List.mem_append_right
        apply identified.mem_listedObjects_of_hasObject object
        intro doElem doNamed doTyped
        apply mem_objectNodes_iff.mpr
        rw [doNamed, ← identified.templates_eq] at *
        refine Or.inr ⟨_, ?_, _, _, named, constrained, rfl⟩
        exact mem_attributesOf_iff.mpr ⟨_, doTyped, _, type, id, inType⟩
    | controlObject present object first cdc =>
        refine ⟨_, (mem_logicalNodes_iff identified.servers _).mpr present, ?_⟩
        apply List.mem_append_right
        apply identified.mem_listedObjects_of_hasObject object
        intro doElem doNamed doTyped
        apply mem_objectNodes_iff.mpr
        rw [← identified.templates_eq] at first
        rw [doNamed]
        exact Or.inl ⟨_, doTyped, isControl_iff.mpr ⟨_, first, cdc⟩, rfl⟩

end Identified

/-- In a file whose types have ids and names the parser returns, its nodes are
those the file lists, and the instances add nothing to the types. -/
theorem parse_lists_specified_nodes (toBool : String → Option Bool)
    {document : XmlDocument} {scl : XmlElement}
    (root : document.firstChildElement "SCL" = some scl)
    (identified : Identified scl) :
    ∃ result, parse toBool (some document) = .ok result ∧
      (∀ node, node ∈ result.nodes ↔ Listed scl node) ∧
      ∀ ln ∈ logicalNodes scl, ∃ instances objects,
        instanceNodes scl ln = .ok instances ∧
        templateNodes scl ln = .ok objects ∧ instances ⊆ objects := by
  have read : (some document).bind (·.firstChildElement "SCL") = some scl := root
  refine ⟨_, (parse_computes read).ok identified.nullFree, ?_, ?_⟩
  · exact identified.mem_listedNodes_iff
  · intro ln _
    have safe := identified.logicalNodeSafe ln
    exact ⟨_, _, (instanceNodes_computes scl ln).ok safe.1,
      (templateNodes_computes scl ln).ok safe.2, identified.instances_subset ln⟩

/-- An alarm that can be switched, with an instance of it and of its control
model. -/
def alarmFile : XmlDocument :=
  fileOf
    [deviceOf "Gateway" "LD1"
      [{ name := "LN"
         attributes := [("lnClass", "SPTR"), ("inst", "01"), ("lnType", "Tank")]
         children :=
          [{ name := "DOI", attributes := [("name", "Alm")], children :=
            [{ name := "DAI", attributes := [("name", "ctlModel")]
               children := [] }] }] }]]
    [{ name := "LNodeType", attributes := [("id", "Tank")], children :=
      [{ name := "DO", attributes := [("name", "Alm"), ("type", "Switch")]
         children := [] }] },
     { name := "DOType", attributes := [("id", "Switch"), ("cdc", "SPC")]
       children :=
        [{ name := "DA", attributes := [("name", "stVal"), ("fc", "ST")]
           children := [] },
         { name := "DA", attributes := [("name", "ctlModel"), ("fc", "CF")]
           children := [] }] }]

def alarmScl : XmlElement :=
  (alarmFile.firstChildElement "SCL").getD
    { name := "SCL", attributes := [], children := [] }

theorem parse_lists_specified_nodes_alarm :
    ∃ result, parse (fun _ => none) (some alarmFile) = .ok result ∧
      (∀ node, node ∈ result.nodes ↔ Listed alarmScl node) ∧
      ∀ ln ∈ logicalNodes alarmScl, ∃ instances objects,
        instanceNodes alarmScl ln = .ok instances ∧
        templateNodes alarmScl ln = .ok objects ∧ instances ⊆ objects := by
  apply parse_lists_specified_nodes _ rfl
  constructor
  · decide
  · decide
  · decide
  · decide
  · decide
  · decide

end DataGateway.Iec61850
