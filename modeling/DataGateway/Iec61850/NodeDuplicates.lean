import Mathlib.Data.List.Perm.Basic
import DataGateway.Iec61850.Designations

/-!
# Nodes that are listed twice

Data sets, instances and types all append to the list of nodes.  With names that
are unique a data object lists each of its nodes once; what remains are instances
of what a type lists too, and entries and data objects whose designations coincide.
-/

namespace DataGateway.Iec61850

open Foundation

section

variable (scl : XmlElement)

/-- No instance of a logical node has anything of the type, if this is not
empty. -/
def SilentInstances (ln : LogicalNode) : Prop :=
  ln.lnType.getD "" ≠ "" → ∀ doi ∈ ln.element.childElements "DOI", ∀ daName fc,
    ¬InstanceHas scl (ln.lnType.getD "") doi daName fc

/-- What keeps a file from listing a node twice: no instance repeats its type, and
neither do the designations of two entries coincide, nor those of two data objects,
nor those of an entry and a data object. -/
structure ListsOnce : Prop where
  instances : ∀ ln ∈ logicalNodes scl, SilentInstances scl ln
  entries : (fcdaEntries scl).Pairwise (¬ ·.Coincides ·)
  objects : (allObjects scl).Pairwise fun first second =>
    ∀ one, Designates scl first.1 first.2 one →
      ∀ other, Designates scl second.1 second.2 other → ¬one.Coincides other
  apart : ∀ entry ∈ fcdaEntries scl, ∀ object ∈ allObjects scl,
    ∀ other, Designates scl object.1 object.2 other → ¬entry.Coincides other

/-- The nodes that a data object of a logical node adds to the list. -/
def nodesOf (object : LogicalNode × XmlElement) : List DataNode :=
  if object.1.lnType.getD "" = "" then doiNodes scl object.1 object.2
  else objectNodes scl object.1.lnRef object.2

end

private theorem nodup_append_iff_of_subset {α : Type} {first second : List α}
    (subset : first ⊆ second) :
    (first ++ second).Nodup ↔ first = [] ∧ second.Nodup := by
  rw [List.nodup_append']
  constructor
  · intro parts
    obtain ⟨_, unique, apart⟩ := parts
    refine ⟨List.eq_nil_iff_forall_not_mem.mpr ?_, unique⟩
    intro item member
    exact apart member (subset member)
  · intro parts
    rw [parts.1]
    exact ⟨List.nodup_nil, parts.2, List.disjoint_nil_left _⟩

theorem continued_inj {path name other : String} :
    path ++ "." ++ name = path ++ "." ++ other ↔ name = other :=
  String.append_right_inj _

private theorem continued_ne (path name : String) : path ++ "." ++ name ≠ path := by
  intro same
  have lengths := congrArg String.length same
  have separator : ".".length = 1 := rfl
  simp only [String.length_append] at lengths
  omega

section Objects

variable {scl : XmlElement}

theorem nodup_control_append (doPath : String) {control attributes : List DataNode}
    (short : control = [] ∨ control = [{ path := doPath, fc := "CO" }])
    (long : ∀ node ∈ attributes, ∃ daName, node.path = doPath ++ "." ++ daName)
    (unique : attributes.Nodup) : (control ++ attributes).Nodup := by
  apply List.nodup_append'.mpr
  rcases short with none | one
  · rw [none]
    exact ⟨List.nodup_nil, unique, List.disjoint_nil_left _⟩
  · rw [one]
    refine ⟨List.nodup_singleton _, unique, ?_⟩
    rw [List.singleton_disjoint]
    intro member
    obtain ⟨daName, path⟩ := long _ member
    exact continued_ne doPath daName path.symm

theorem path_of_attributeNode? {doPath : String} {da : XmlElement} {node : DataNode}
    (found : attributeNode? doPath da = some node) :
    ∃ daName, da.attribute? "name" = some daName ∧
      node.path = doPath ++ "." ++ daName := by
  unfold attributeNode? at found
  cases named : da.attribute? "name" with
  | none => simp [named] at found
  | some daName =>
      cases constrained : da.attribute? "fc" with
      | none => simp [named, constrained] at found
      | some fc =>
          simp only [named, constrained, Option.some.injEq] at found
          exact ⟨daName, rfl, found ▸ rfl⟩

theorem path_of_mem_daiNodes {lnType doName doPath : String} {dai : XmlElement}
    {node : DataNode} (member : node ∈ daiNodes scl lnType doName doPath dai) :
    ∃ daName, dai.attribute? "name" = some daName ∧
      node.path = doPath ++ "." ++ daName := by
  obtain ⟨daName, named, _, same⟩ := mem_daiNodes_iff.mp member
  exact ⟨daName, named, same ▸ rfl⟩

private theorem daiNodes_nodup {lnType doName doPath : String} (dai : XmlElement) :
    (daiNodes scl lnType doName doPath dai).Nodup := by
  unfold daiNodes
  split
  case h_1 => exact List.nodup_nil
  case h_2 =>
    split
    case isTrue => exact List.nodup_nil
    case isFalse => exact List.nodup_singleton _

private theorem doiNodes_eq_nil_iff (unique : UniqueNames scl) {ln : LogicalNode}
    {lnType : String} (typed : ln.lnType = some lnType) {doi : XmlElement} :
    doiNodes scl ln doi = [] ↔
      ∀ daName fc, ¬InstanceHas scl lnType doi daName fc := by
  rw [List.eq_nil_iff_forall_not_mem]
  simp only [mem_doiNodes_iff_has unique typed]
  constructor
  · intro none daName fc has
    exact none _ ⟨daName, fc, has, rfl⟩
  · rintro none node ⟨daName, fc, has, _⟩
    exact none daName fc has

theorem node_ne_of_names_differ {doPath : String} {da other : XmlElement}
    {node otherNode : DataNode}
    (named : ∃ daName, da.attribute? "name" = some daName ∧
      node.path = doPath ++ "." ++ daName)
    (otherNamed : ∃ daName, other.attribute? "name" = some daName ∧
      otherNode.path = doPath ++ "." ++ daName)
    (differ : ∀ daName, da.attribute? "name" = some daName →
      ∀ otherName, other.attribute? "name" = some otherName →
        daName ≠ otherName) : node ≠ otherNode := by
  intro same
  obtain ⟨daName, ofDa, path⟩ := named
  obtain ⟨otherName, ofOther, otherPath⟩ := otherNamed
  rw [same, otherPath, continued_inj] at path
  exact differ daName ofDa otherName ofOther path.symm

private theorem objectNodes_nodup (unique : UniqueNames scl) (lnRef : String)
    (doElem : XmlElement) : (objectNodes scl lnRef doElem).Nodup := by
  unfold objectNodes
  apply nodup_control_append (lnRef ++ "." ++ (doElem.attribute? "name").getD "")
  · cases doElem.attribute? "type" with
    | none => exact Or.inl rfl
    | some doTypeId =>
        cases decided : isControl scl doTypeId with
        | false => simp [decided]
        | true => simp [decided]
  · intro node member
    obtain ⟨da, _, found⟩ := List.mem_filterMap.mp member
    obtain ⟨daName, _, path⟩ := path_of_attributeNode? found
    exact ⟨daName, path⟩
  · apply List.pairwise_filterMap.mpr
    apply (List.pairwise_filterMap.mp (attributesOf_distinct unique doElem)).imp
    intro da other differ node found otherNode otherFound
    exact node_ne_of_names_differ (path_of_attributeNode? found)
      (path_of_attributeNode? otherFound) differ

private theorem doiNodes_nodup (ln : LogicalNode) {doi : XmlElement}
    (unique : Distinct "name" (doi.childElements "DAI")) :
    (doiNodes scl ln doi).Nodup := by
  unfold doiNodes
  split
  case h_2 => exact List.nodup_nil
  case h_1 lnType doName _ _ =>
    apply nodup_control_append (ln.lnRef ++ "." ++ doName)
    · split
      case isTrue => exact Or.inr rfl
      case isFalse => exact Or.inl rfl
    · intro node member
      obtain ⟨dai, _, found⟩ := List.mem_flatMap.mp member
      obtain ⟨daName, _, path⟩ := path_of_mem_daiNodes found
      exact ⟨daName, path⟩
    · apply List.nodup_flatMap.mpr
      constructor
      · intro dai _
        exact daiNodes_nodup dai
      · apply (List.pairwise_filterMap.mp unique).imp
        intro dai other differ node found otherFound
        exact node_ne_of_names_differ (path_of_mem_daiNodes found)
          (path_of_mem_daiNodes otherFound) differ rfl

private theorem nodesOf_nodup (unique : UniqueNames scl)
    {object : LogicalNode × XmlElement}
    (member : object ∈ allObjects scl) : (nodesOf scl object).Nodup := by
  obtain ⟨ln, present, inNode⟩ := List.mem_flatMap.mp member
  obtain ⟨element, inObjects, rfl⟩ := List.mem_map.mp inNode
  unfold dataObjects at inObjects
  unfold nodesOf
  split
  case isTrue empty =>
    rw [if_pos empty] at inObjects
    exact doiNodes_nodup ln (unique.dais ln present element inObjects)
  case isFalse => exact objectNodes_nodup unique ln.lnRef element

/-- Beside a type that is not empty the instances repeat nodes of the type. -/
theorem silent_of_nodup (unique : UniqueNames scl) {ln : LogicalNode}
    (nodup : (listedInstances scl ln ++ listedObjects scl ln).Nodup) :
    SilentInstances scl ln := by
  intro nonempty
  have subset : listedInstances scl ln ⊆ listedObjects scl ln :=
    instances_subset_of_nonempty nonempty
  cases typed : ln.lnType with
  | none => simp [typed] at nonempty
  | some lnType =>
      have none := ((nodup_append_iff_of_subset subset).mp nodup).1
      intro doi member
      apply (doiNodes_eq_nil_iff unique typed).mp
      exact List.flatMap_eq_nil_iff.mp none doi member

private theorem instances_append_objects (unique : UniqueNames scl) {ln : LogicalNode}
    (silent : SilentInstances scl ln) :
    listedInstances scl ln ++ listedObjects scl ln =
      ((dataObjects scl ln).map (ln, ·)).flatMap (nodesOf scl) := by
  unfold listedInstances listedObjects dataObjects nodesOf
  rw [List.flatMap_map]
  by_cases empty : ln.lnType.getD "" = ""
  · simp only [if_pos empty, List.append_nil]
  · have none : (ln.element.childElements "DOI").flatMap (doiNodes scl ln) = [] := by
      apply List.flatMap_eq_nil_iff.mpr
      intro doi member
      cases typed : ln.lnType with
      | none => simp [doiNodes, typed]
      | some lnType =>
          apply (doiNodes_eq_nil_iff unique typed).mpr
          have named := silent empty doi member
          rwa [typed] at named
    simp only [if_neg empty, none, List.nil_append]

private theorem silent_of_listedNodes_nodup (unique : UniqueNames scl)
    (nodup : (listedNodes scl).Nodup) :
    ∀ ln ∈ logicalNodes scl, SilentInstances scl ln := by
  intro ln present
  have ofNode := (List.nodup_flatMap.mp nodup).1 ln present
  rw [List.append_assoc] at ofNode
  exact silent_of_nodup unique (List.nodup_append'.mp ofNode).2.1

private theorem fcdaNodes_eq : (logicalNodes scl).flatMap fcdaNodes =
    (fcdaEntries scl).map Designation.node := by
  unfold fcdaNodes fcdaEntries dataSetNodes
  simp only [List.map_flatMap, List.map_filterMap, fcdaNode?_eq]

theorem listedNodes_perm (unique : UniqueNames scl)
    (silent : ∀ ln ∈ logicalNodes scl, SilentInstances scl ln) :
    (listedNodes scl).Perm ((fcdaEntries scl).map Designation.node ++
      (allObjects scl).flatMap (nodesOf scl)) := by
  have objects : (allObjects scl).flatMap (nodesOf scl) =
      (logicalNodes scl).flatMap fun ln =>
        listedInstances scl ln ++ listedObjects scl ln := by
    unfold allObjects
    rw [List.flatMap_assoc]
    apply List.flatMap_congr
    intro ln present
    exact (instances_append_objects unique (silent ln present)).symm
  rw [objects, ← fcdaNodes_eq]
  unfold listedNodes
  simp only [List.append_assoc]
  exact (List.flatMap_append_perm _ _ _).symm

theorem mem_nodesOf_iff (unique : UniqueNames scl) {object : LogicalNode × XmlElement}
    {node : DataNode} : node ∈ nodesOf scl object ↔
      ∃ one, Designates scl object.1 object.2 one ∧ node = one.node := by
  obtain ⟨ln, element⟩ := object
  unfold nodesOf
  by_cases empty : ln.lnType.getD "" = ""
  · rw [if_pos empty]
    cases typed : ln.lnType with
    | none =>
        constructor
        · intro member
          simp [doiNodes, typed] at member
        · rintro ⟨_, designates, _⟩
          cases designates with
          | ofType nonempty has => exact absurd empty nonempty
          | ofInstance same has =>
              rw [typed] at same
              cases same
    | some lnType =>
        rw [typed, Option.getD_some] at empty
        subst empty
        rw [mem_doiNodes_iff_has unique typed]
        constructor
        · rintro ⟨daName, fc, has, same⟩
          exact ⟨_, .ofInstance typed has, same⟩
        · rintro ⟨_, designates, same⟩
          cases designates with
          | ofType nonempty has => exact absurd (by rw [typed]; rfl) nonempty
          | ofInstance _ has => exact ⟨_, _, has, same⟩
  · rw [if_neg empty, mem_objectNodes_iff_has unique]
    constructor
    · rintro ⟨daName, fc, has, same⟩
      exact ⟨_, .ofType empty has, same⟩
    · rintro ⟨_, designates, same⟩
      cases designates with
      | ofType _ has => exact ⟨_, _, has, same⟩
      | ofInstance typed has => exact absurd (by rw [typed]; rfl) empty

private theorem disjoint_nodesOf_iff (unique : UniqueNames scl)
    {first second : LogicalNode × XmlElement} :
    (nodesOf scl first).Disjoint (nodesOf scl second) ↔
      ∀ one, Designates scl first.1 first.2 one →
        ∀ other, Designates scl second.1 second.2 other → ¬one.Coincides other := by
  constructor
  · intro apart one designates other otherDesignates coincides
    exact apart ((mem_nodesOf_iff unique).mpr ⟨one, designates, rfl⟩)
      ((mem_nodesOf_iff unique).mpr ⟨other, otherDesignates,
        Designation.coincides_iff.mp coincides⟩)
  · intro apart node member otherMember
    obtain ⟨one, designates, same⟩ := (mem_nodesOf_iff unique).mp member
    obtain ⟨other, otherDesignates, otherSame⟩ :=
      (mem_nodesOf_iff unique).mp otherMember
    exact apart one designates other otherDesignates
      (Designation.coincides_iff.mpr (same.symm.trans otherSame))

private theorem disjoint_entries_iff (unique : UniqueNames scl) :
    ((fcdaEntries scl).map Designation.node).Disjoint
        ((allObjects scl).flatMap (nodesOf scl)) ↔
      ∀ entry ∈ fcdaEntries scl, ∀ object ∈ allObjects scl,
        ∀ other, Designates scl object.1 object.2 other → ¬entry.Coincides other := by
  constructor
  · intro apart entry member object inFile other designates coincides
    exact apart (List.mem_map_of_mem member) (List.mem_flatMap.mpr
      ⟨object, inFile, (mem_nodesOf_iff unique).mpr
        ⟨other, designates, Designation.coincides_iff.mp coincides⟩⟩)
  · intro apart node member otherMember
    obtain ⟨entry, inSets, rfl⟩ := List.mem_map.mp member
    obtain ⟨object, inFile, inObject⟩ := List.mem_flatMap.mp otherMember
    obtain ⟨other, designates, same⟩ := (mem_nodesOf_iff unique).mp inObject
    exact apart entry inSets object inFile other designates
      (Designation.coincides_iff.mpr same)

private theorem nodup_listedNodes_iff (unique : UniqueNames scl) :
    (listedNodes scl).Nodup ↔ ListsOnce scl := by
  have entries_ : ((fcdaEntries scl).map Designation.node).Nodup ↔
      (fcdaEntries scl).Pairwise (¬ ·.Coincides ·) := by
    simp only [List.Nodup, List.pairwise_map, Designation.coincides_iff, ne_eq]
  have objects : ((allObjects scl).flatMap (nodesOf scl)).Nodup ↔
      (allObjects scl).Pairwise fun first second =>
        ∀ one, Designates scl first.1 first.2 one →
          ∀ other, Designates scl second.1 second.2 other → ¬one.Coincides other := by
    rw [List.nodup_flatMap]
    constructor
    · intro parts
      exact parts.2.imp fun apart => (disjoint_nodesOf_iff unique).mp apart
    · intro apart
      exact ⟨fun object member => nodesOf_nodup unique member,
        apart.imp fun none => (disjoint_nodesOf_iff unique).mpr none⟩
  constructor
  · intro nodup
    have silent := silent_of_listedNodes_nodup unique nodup
    rw [(listedNodes_perm unique silent).nodup_iff, List.nodup_append', entries_,
      objects, disjoint_entries_iff unique] at nodup
    exact ⟨silent, nodup.1, nodup.2.1, nodup.2.2⟩
  · intro once
    rw [(listedNodes_perm unique once.instances).nodup_iff, List.nodup_append',
      entries_, objects, disjoint_entries_iff unique]
    exact ⟨once.entries, once.objects, once.apart⟩

end Objects

/-- With unique names the nodes of a file are listed once exactly under the
stated condition. -/
theorem parsed_nodes_nodup_iff (toBool : String → Option Bool)
    {document : XmlDocument} {scl : XmlElement} {result : ParseResult}
    (root : document.firstChildElement "SCL" = some scl)
    (unique : UniqueNames scl)
    (accepted : parse toBool (some document) = .ok result) :
    result.nodes.Nodup ↔ ListsOnce scl := by
  have read : (some document).bind (·.firstChildElement "SCL") = some scl := root
  rw [(parse_computes read).eq_of_ok accepted]
  exact nodup_listedNodes_iff unique

private theorem alarm_names_unique : UniqueNames alarmScl := by
  constructor <;> decide

/-- The instance of the alarm and its type both list the switch and the control
model. -/
def alarmResult : ParseResult :=
  { nodes :=
      [{ path := "GatewayLD1/SPTR01.Alm", fc := "CO" },
       { path := "GatewayLD1/SPTR01.Alm.ctlModel", fc := "CF" },
       { path := "GatewayLD1/SPTR01.Alm", fc := "CO" },
       { path := "GatewayLD1/SPTR01.Alm.stVal", fc := "ST" },
       { path := "GatewayLD1/SPTR01.Alm.ctlModel", fc := "CF" }]
    dataSets := []
    reports := [] }

private theorem parse_alarmFile (toBool : String → Option Bool) :
    parse toBool (some alarmFile) = .ok alarmResult :=
  rfl

theorem parsed_nodes_nodup_iff_alarm :
    alarmResult.nodes.Nodup ↔ ListsOnce alarmScl :=
  parsed_nodes_nodup_iff (fun _ => none) rfl alarm_names_unique
    (parse_alarmFile _)

theorem instance_is_listed_twice :
    ¬∀ (toBool : String → Option Bool) (document : XmlDocument) (scl : XmlElement)
      (result : ParseResult), document.firstChildElement "SCL" = some scl →
      UniqueNames scl → parse toBool (some document) = .ok result →
      result.nodes.Nodup := by
  intro once
  have nodup := once (fun _ => none) alarmFile alarmScl alarmResult rfl
    alarm_names_unique (parse_alarmFile _)
  revert nodup
  decide

end DataGateway.Iec61850
