import Mathlib.Data.List.Nodup
import DataGateway.Iec61850.IcdNodes
import DataGateway.Iec61850.References

/-!
# What a file designates

An entry of a data set designates a data object or an attribute of one, and so
does, by the type or the instances that it has, every logical node.  The texts
that do this stand in the attributes of the elements; two designations coincide
where these texts, joined as in a reference, read the same.
-/

namespace DataGateway.Iec61850

open Foundation

/-- No two of the elements have the same text in the attribute. -/
def Distinct (name : String) (elements : List XmlElement) : Prop :=
  (elements.filterMap (·.attribute? name)).Nodup

instance (name : String) (elements : List XmlElement) :
    Decidable (Distinct name elements) :=
  inferInstanceAs (Decidable (List.Nodup _))

/-- Ids and names are unique where they are defined. -/
structure UniqueNames (scl : XmlElement) : Prop where
  ieds : Distinct "name" (scl.childElements "IED")
  lDevices : ∀ ied ∈ scl.childElements "IED", Distinct "inst"
    (((ied.childElements "AccessPoint").flatMap (·.childElements "Server")).flatMap
      (·.childElements "LDevice"))
  lns : ((logicalNodes scl).map fun ln =>
    (ln.iedName, ln.ldInst, ln.lnPrefix, ln.lnClass, ln.inst)).Nodup
  dataSets : ∀ ln ∈ logicalNodes scl,
    Distinct "name" (ln.element.childElements "DataSet")
  dois : ∀ ln ∈ logicalNodes scl, Distinct "name" (ln.element.childElements "DOI")
  dais : ∀ ln ∈ logicalNodes scl, ∀ doi ∈ ln.element.childElements "DOI",
    Distinct "name" (doi.childElements "DAI")
  lNodeTypes : Distinct "id" (templates scl "LNodeType")
  objects : ∀ lnt ∈ templates scl "LNodeType",
    Distinct "name" (lnt.childElements "DO")
  doTypes : Distinct "id" (templates scl "DOType")
  attributes : ∀ doType ∈ templates scl "DOType",
    Distinct "name" (doType.childElements "DA")

/-- The texts that name a data object, or an attribute of it, with a functional
constraint. -/
structure Designation where
  iedName : String
  ldInst : String
  lnClass : String
  lnInst : String
  doName : String
  daName : Option String
  fc : String

namespace Designation

variable (designation : Designation)

def joined : String :=
  designation.iedName ++ designation.ldInst ++ "/" ++ designation.lnClass ++
    designation.lnInst ++ "." ++ designation.doName ++
    match designation.daName with
    | none => ""
    | some daName => "." ++ daName

def Coincides (first second : Designation) : Prop :=
  first.joined = second.joined ∧ first.fc = second.fc

def node : DataNode :=
  { path := designation.joined
    fc := designation.fc }

theorem coincides_iff {first second : Designation} :
    first.Coincides second ↔ first.node = second.node := by
  simp [Coincides, node]

end Designation

section

variable (scl : XmlElement)

/-- The designation of an entry that has a functional constraint. -/
def fcdaDesignation? (iedName : String) (fcda : XmlElement) : Option Designation :=
  (fcda.attribute? "fc").map fun fc =>
    { iedName := iedName
      ldInst := (fcda.attribute? "ldInst").getD ""
      lnClass := (fcda.attribute? "lnClass").getD ""
      lnInst := (fcda.attribute? "lnInst").getD ""
      doName := (fcda.attribute? "doName").getD ""
      daName := fcda.attribute? "daName"
      fc := fc }

/-- The entries of all data sets. -/
def fcdaEntries : List Designation :=
  (logicalNodes scl).flatMap fun ln =>
    (ln.element.childElements "DataSet").flatMap fun ds =>
      (ds.childElements "FCDA").filterMap (fcdaDesignation? ln.iedName)

def ControlType (doTypeId : String) : Prop :=
  ∃ doType ∈ templates scl "DOType", doType.attribute? "id" = some doTypeId ∧
    (doType.attribute? "cdc" = some "SPC" ∨ doType.attribute? "cdc" = some "DPC")

/-- A data object has itself, if its type is that of a control object, and those
attributes of its type that have a functional constraint. -/
inductive ObjectHas (doElem : XmlElement) : Option String → String → Prop
  | control {doTypeId : String} (type : doElem.attribute? "type" = some doTypeId)
      (controlled : ControlType scl doTypeId) : ObjectHas doElem none "CO"
  | part {da : XmlElement} {daName fc : String}
      (member : da ∈ attributesOf scl doElem)
      (name : da.attribute? "name" = some daName)
      (constraint : da.attribute? "fc" = some fc) :
      ObjectHas doElem (some daName) fc

/-- An instance has of the object of its name itself and the attributes that it
names, if their constraint is not empty. -/
inductive InstanceHas (lnType : String) (doi : XmlElement) :
    Option String → String → Prop
  | control {doElem : XmlElement} {doName doTypeId : String}
      (named : doi.attribute? "name" = some doName)
      (object : doElem ∈ objectsOf scl lnType)
      (name : doElem.attribute? "name" = some doName)
      (type : doElem.attribute? "type" = some doTypeId) (nonempty : doTypeId ≠ "")
      (controlled : ControlType scl doTypeId) : InstanceHas lnType doi none "CO"
  | part {doElem dai da : XmlElement} {doName daName fc : String}
      (named : doi.attribute? "name" = some doName)
      (object : doElem ∈ objectsOf scl lnType)
      (name : doElem.attribute? "name" = some doName)
      (inInstance : dai ∈ doi.childElements "DAI")
      (daNamed : dai.attribute? "name" = some daName)
      (member : da ∈ attributesOf scl doElem)
      (sameName : da.attribute? "name" = some daName)
      (constraint : da.attribute? "fc" = some fc) (nonempty : fc ≠ "") :
      InstanceHas lnType doi (some daName) fc

/-- The data objects of a logical node: those of its type or, where this is empty,
its instances. -/
def dataObjects (ln : LogicalNode) : List XmlElement :=
  if ln.lnType.getD "" = "" then ln.element.childElements "DOI"
  else objectsOf scl (ln.lnType.getD "")

/-- The data objects of the file. -/
def allObjects : List (LogicalNode × XmlElement) :=
  (logicalNodes scl).flatMap fun ln => (dataObjects scl ln).map (ln, ·)

def designation (ln : LogicalNode) (object : XmlElement) (daName : Option String)
    (fc : String) : Designation :=
  { iedName := ln.iedName
    ldInst := ln.ldInst
    lnClass := ln.lnClass
    lnInst := ln.inst
    doName := (object.attribute? "name").getD ""
    daName := daName
    fc := fc }

/-- What a data object of a logical node designates. -/
inductive Designates (ln : LogicalNode) (object : XmlElement) : Designation → Prop
  | ofType {daName : Option String} {fc : String} (typed : ln.lnType.getD "" ≠ "")
      (has : ObjectHas scl object daName fc) :
      Designates ln object (designation ln object daName fc)
  | ofInstance {daName : Option String} {fc : String} (empty : ln.lnType = some "")
      (has : InstanceHas scl "" object daName fc) :
      Designates ln object (designation ln object daName fc)

end

section

variable {scl : XmlElement}

theorem carrying_eq_nil_or_singleton {name : String} {elements : List XmlElement}
    (distinct : Distinct name elements) (text : String) :
    carrying name text elements = [] ∨
      ∃ element ∈ elements, carrying name text elements = [element] := by
  have apart : (carrying name text elements).Pairwise _ :=
    (List.pairwise_filterMap.mp distinct).filter _
  cases found : carrying name text elements with
  | nil => exact Or.inl rfl
  | cons element rest =>
      have member : ∀ other ∈ element :: rest,
          other ∈ elements ∧ other.attribute? name = some text := by
        intro other inFound
        rw [← found] at inFound
        exact mem_carrying_iff.mp inFound
      have first := member element List.mem_cons_self
      cases rest with
      | nil => exact Or.inr ⟨element, first.1, rfl⟩
      | cons other rest =>
          have second := member other (List.mem_cons_of_mem _ List.mem_cons_self)
          rw [found] at apart
          have differ := List.rel_of_pairwise_cons apart List.mem_cons_self
          exact absurd rfl (differ text first.2 text second.2)

theorem attributesOf_distinct (unique : UniqueNames scl) (doElem : XmlElement) :
    Distinct "name" (attributesOf scl doElem) := by
  unfold attributesOf
  cases doElem.attribute? "type" with
  | none => exact List.nodup_nil
  | some doTypeId =>
      rcases carrying_eq_nil_or_singleton unique.doTypes doTypeId with none | one
      · simp [typesOf, none, Distinct]
      · obtain ⟨doType, present, types⟩ := one
        simp only [typesOf, types, List.flatMap_singleton]
        exact unique.attributes doType present

private theorem objectsOf_distinct (unique : UniqueNames scl) (lnType : String) :
    Distinct "name" (objectsOf scl lnType) := by
  rcases carrying_eq_nil_or_singleton unique.lNodeTypes lnType with none | one
  · simp [objectsOf, typesOf, none, Distinct]
  · obtain ⟨lnt, present, types⟩ := one
    simp only [objectsOf, typesOf, types, List.flatMap_singleton]
    exact unique.objects lnt present

/-- With unique ids the first type of an id is the only one. -/
theorem isControl_iff_controlType (unique : UniqueNames scl) (doTypeId : String) :
    isControl scl doTypeId = true ↔ ControlType scl doTypeId := by
  unfold isControl ControlType typesOf
  simp only [← and_assoc, ← mem_carrying_iff]
  rcases carrying_eq_nil_or_singleton unique.doTypes doTypeId with none | one
  · simp [none]
  · obtain ⟨doType, _, types⟩ := one
    simp [types, isControlClass]

theorem control_iff (unique : UniqueNames scl) (lnType doName : String) :
    (doTypeIdOf scl lnType doName ≠ "" ∧
        isControl scl (doTypeIdOf scl lnType doName) = true) ↔
      ∃ doElem ∈ objectsOf scl lnType, doElem.attribute? "name" = some doName ∧
        ∃ doTypeId, doElem.attribute? "type" = some doTypeId ∧ doTypeId ≠ "" ∧
          ControlType scl doTypeId := by
  simp only [← isControl_iff_controlType unique]
  constructor
  · intro found
    obtain ⟨doElem, object, name, type⟩ := doTypeIdOf_found found.1
    exact ⟨doElem, object, name, _, type, found⟩
  · rintro ⟨doElem, object, name, doTypeId, type, found⟩
    have member := mem_carrying_iff.mpr ⟨object, name⟩
    unfold doTypeIdOf
    rcases carrying_eq_nil_or_singleton (objectsOf_distinct unique lnType) doName
      with none | ⟨only, _, one⟩
    · rw [none] at member
      cases member
    · rw [one, List.mem_singleton] at member
      subst member
      simpa [one, type] using found

theorem fcOf_eq_iff (unique : UniqueNames scl) (lnType doName daName : String)
    {fc : String} (nonempty : fc ≠ "") :
    fcOf scl lnType doName daName = fc ↔
      ∃ doElem ∈ objectsOf scl lnType, doElem.attribute? "name" = some doName ∧
        ∃ da ∈ attributesOf scl doElem, da.attribute? "name" = some daName ∧
          da.attribute? "fc" = some fc := by
  constructor
  · intro found
    subst found
    exact fcOf_found nonempty
  · rintro ⟨doElem, object, name, da, attribute_, daNamed, constraint⟩
    have member := mem_carrying_iff.mpr ⟨object, name⟩
    have daMember := mem_carrying_iff.mpr ⟨attribute_, daNamed⟩
    unfold fcOf
    rcases carrying_eq_nil_or_singleton (objectsOf_distinct unique lnType) doName
      with none | ⟨only, _, one⟩
    · rw [none] at member
      cases member
    · rw [one, List.mem_singleton] at member
      subst member
      rw [one, List.flatMap_singleton]
      rcases carrying_eq_nil_or_singleton (attributesOf_distinct unique doElem) daName
        with none | ⟨only, _, one⟩
      · rw [none] at daMember
        cases daMember
      · rw [one, List.mem_singleton] at daMember
        subst daMember
        simp [one, constraint]

theorem node_designation_none (ln : LogicalNode) (object : XmlElement) (fc : String) :
    (designation ln object none fc).node =
      { path := ln.lnRef ++ "." ++ (object.attribute? "name").getD ""
        fc := fc } := by
  simp [Designation.node, Designation.joined, designation, LogicalNode.lnRef]

theorem node_designation_some (ln : LogicalNode) (object : XmlElement)
    (daName fc : String) :
    (designation ln object (some daName) fc).node =
      { path := ln.lnRef ++ "." ++ (object.attribute? "name").getD "" ++ "." ++ daName
        fc := fc } := by
  simp [Designation.node, Designation.joined, designation, LogicalNode.lnRef,
    String.append_assoc]

theorem mem_objectNodes_iff_has (unique : UniqueNames scl) (ln : LogicalNode)
    {doElem : XmlElement} {node : DataNode} :
    node ∈ objectNodes scl ln.lnRef doElem ↔
      ∃ daName fc, ObjectHas scl doElem daName fc ∧
        node = (designation ln doElem daName fc).node := by
  rw [mem_objectNodes_iff]
  constructor
  · rintro (⟨doTypeId, type, controlled, same⟩ |
      ⟨da, member, daName, fc, name, constraint, same⟩)
    · exact ⟨none, "CO",
        .control type ((isControl_iff_controlType unique doTypeId).mp controlled),
        same.trans (node_designation_none ln doElem "CO").symm⟩
    · exact ⟨some daName, fc, .part member name constraint,
        same.trans (node_designation_some ln doElem daName fc).symm⟩
  · rintro ⟨daName, fc, has, same⟩
    cases has with
    | control type controlled =>
        exact Or.inl ⟨_, type, (isControl_iff_controlType unique _).mpr controlled,
          same.trans (node_designation_none ln doElem "CO")⟩
    | part member name constraint =>
        exact Or.inr ⟨_, member, _, _, name, constraint,
          same.trans (node_designation_some ln doElem _ fc)⟩

theorem mem_doiNodes_iff_has (unique : UniqueNames scl) {ln : LogicalNode}
    {lnType : String} (typed : ln.lnType = some lnType) {doi : XmlElement}
    {node : DataNode} :
    node ∈ doiNodes scl ln doi ↔
      ∃ daName fc, InstanceHas scl lnType doi daName fc ∧
        node = (designation ln doi daName fc).node := by
  rw [mem_doiNodes_iff typed]
  constructor
  · rintro ⟨doName, named, ⟨decided, same⟩ | ⟨dai, inInstance, member⟩⟩
    · obtain ⟨doElem, object, name, doTypeId, type, nonempty, controlled⟩ :=
        (control_iff unique lnType doName).mp decided
      refine ⟨none, "CO", .control named object name type nonempty controlled, ?_⟩
      rw [node_designation_none, named]
      exact same
    · obtain ⟨daName, daNamed, nonempty, same⟩ := mem_daiNodes_iff.mp member
      obtain ⟨doElem, object, name, da, attribute_, sameName, constraint⟩ :=
        (fcOf_eq_iff unique lnType doName daName nonempty).mp rfl
      refine ⟨some daName, _, .part named object name inInstance daNamed attribute_
        sameName constraint nonempty, ?_⟩
      rw [node_designation_some, named]
      exact same
  · rintro ⟨daName, fc, has, same⟩
    cases has with
    | @control doElem doName doTypeId named object name type nonempty controlled =>
        refine ⟨doName, named, Or.inl ⟨(control_iff unique lnType doName).mpr
          ⟨_, object, name, _, type, nonempty, controlled⟩, ?_⟩⟩
        rw [same, node_designation_none, named]
        rfl
    | @part doElem dai da doName daName fc named object name inInstance daNamed
        member sameName constraint nonempty =>
        have decided := (fcOf_eq_iff unique lnType doName daName nonempty).mpr
          ⟨_, object, name, _, member, sameName, constraint⟩
        refine ⟨doName, named, Or.inr ⟨dai, inInstance, mem_daiNodes_iff.mpr ?_⟩⟩
        refine ⟨daName, daNamed, decided ▸ nonempty, ?_⟩
        rw [same, node_designation_some, named, decided]
        rfl

theorem fcdaNode?_eq (iedName : String) (fcda : XmlElement) :
    fcdaNode? iedName fcda = (fcdaDesignation? iedName fcda).map Designation.node := by
  unfold fcdaNode? fcdaDesignation?
  cases fcda.attribute? "fc" <;> rfl

end

end DataGateway.Iec61850
