import DataGateway.Foundation.Separator
import DataGateway.Iec61850.IcdLookups

/-!
# References of logical nodes

A reference joins the device and the logical device on one side of a slash and
the class and the instance on the other; the prefix of a logical node is not
read.  The paths of data sets are built a second time from the same parts.
-/

namespace DataGateway.Iec61850

open Foundation

namespace LogicalNode

variable (ln other : LogicalNode)

/-- What tells logical nodes apart in a file. -/
def lnPrefix : String := (ln.element.attribute? "prefix").getD ""

def ldName : String := ln.iedName ++ ln.ldInst

/-- The node that an entry of a data set in a device designates, as far as the
parser reads the entry. -/
def DesignatedBy (iedName : String) (fcda : XmlElement) : Prop :=
  ln.iedName = iedName ∧ (fcda.attribute? "ldInst").getD "" = ln.ldInst ∧
    (fcda.attribute? "lnClass").getD "" = ln.lnClass ∧
    (fcda.attribute? "lnInst").getD "" = ln.inst

private theorem lnRef_eq : ln.lnRef =
    ln.ldName ++ String.singleton '/' ++ (ln.lnClass ++ ln.inst) := by
  have slash : "/" = String.singleton '/' := by decide
  unfold lnRef ldName
  rw [slash, ← String.append_assoc]

instance (iedName : String) (fcda : XmlElement) :
    Decidable (ln.DesignatedBy iedName fcda) :=
  inferInstanceAs (Decidable (_ ∧ _))

variable {ln other}

theorem lnRef_eq_iff (free : '/' ∉ ln.ldName.toList)
    (otherFree : '/' ∉ other.ldName.toList) :
    ln.lnRef = other.lnRef ↔
      ln.ldName = other.ldName ∧
        ln.lnClass ++ ln.inst = other.lnClass ++ other.inst := by
  rw [lnRef_eq, lnRef_eq]
  exact string_joined_eq_iff_of_not_mem free otherFree

end LogicalNode

/-- The part of an entry after the logical node. -/
def objectPath (fcda : XmlElement) : String :=
  (fcda.attribute? "doName").getD "" ++
    match fcda.attribute? "daName" with
    | none => ""
    | some daName => "." ++ daName

private theorem fcdaPath_of_designated {ln : LogicalNode} {iedName : String}
    {fcda : XmlElement} (designated : ln.DesignatedBy iedName fcda) :
    fcdaPath iedName fcda = ln.lnRef ++ "." ++ objectPath fcda := by
  obtain ⟨ied, ldInst, lnClass, inst⟩ := designated
  unfold fcdaPath LogicalNode.lnRef objectPath
  rw [ied, ldInst, lnClass, inst]
  exact String.append_assoc

/-- Where no name on the left has a slash, references agree exactly if the joined
names do; and an entry has the reference of the node it designates in its device. -/
theorem references_agree_iff (toBool : String → Option Bool)
    {document : XmlDocument} {scl : XmlElement} {result : ParseResult}
    (root : document.firstChildElement "SCL" = some scl)
    (accepted : parse toBool (some document) = .ok result) :
    ((∀ ln ∈ logicalNodes scl, '/' ∉ ln.ldName.toList) →
      ∀ ln ∈ logicalNodes scl, ∀ other ∈ logicalNodes scl,
      (ln.lnRef = other.lnRef ↔
        ln.iedName ++ ln.ldInst = other.iedName ++ other.ldInst ∧
          ln.lnClass ++ ln.inst = other.lnClass ++ other.inst) ∧
      (ln.iedName.length = other.iedName.length →
        ln.lnClass.length = other.lnClass.length →
        (ln.lnRef = other.lnRef ↔
          ln.iedName = other.iedName ∧ ln.ldInst = other.ldInst ∧
            ln.lnClass = other.lnClass ∧ ln.inst = other.inst))) ∧
    ∀ ln ∈ logicalNodes scl, ∀ ds ∈ ln.element.childElements "DataSet",
      ∀ fcda ∈ ds.childElements "FCDA", ∀ designated ∈ logicalNodes scl,
        designated.DesignatedBy ln.iedName fcda →
        fcdaPath ln.iedName fcda = designated.lnRef ++ "." ++ objectPath fcda ∧
        ∀ fc, fcda.attribute? "fc" = some fc →
          { path := designated.lnRef ++ "." ++ objectPath fcda, fc := fc }
            ∈ result.nodes := by
  have read : (some document).bind (·.firstChildElement "SCL") = some scl := root
  constructor
  · intro free ln member other otherMember
    have joined := LogicalNode.lnRef_eq_iff (free ln member) (free other otherMember)
    refine ⟨joined, ?_⟩
    intro iedLength classLength
    rw [joined, LogicalNode.ldName, LogicalNode.ldName,
      string_append_eq_iff_of_length_eq iedLength,
      string_append_eq_iff_of_length_eq classLength, and_assoc]
  · intro ln member ds set fcda entry designated _ designates
    have path := fcdaPath_of_designated designates
    refine ⟨path, ?_⟩
    intro fc constrained
    rw [(parse_computes read).eq_of_ok accepted]
    apply List.mem_flatMap.mpr
    refine ⟨ln, member, ?_⟩
    apply List.mem_append_left
    apply List.mem_append_left
    exact mem_fcdaNodes_iff.mpr ⟨ds, fcda, set, entry, fc, constrained, by rw [path]⟩

/-- In the first device the nodes differ in their prefix only; the second device
splits the same text elsewhere. -/
def referencesFile : XmlDocument :=
  fileOf
    [deviceOf "Gate" "wayLD1"
      [{ name := "LN0", attributes := [("lnClass", "LLN0")], children :=
        [{ name := "DataSet", attributes := [("name", "Gases")], children :=
          [{ name := "FCDA"
             attributes :=
              [("ldInst", "wayLD1"), ("prefix", "Gas"), ("lnClass", "SIMG"),
                ("lnInst", "1"), ("doName", "Pres"), ("fc", "MX")]
             children := [] }] }] },
       { name := "LN"
         attributes := [("prefix", "Gas"), ("lnClass", "SIMG"), ("inst", "1")]
         children := [] },
       { name := "LN"
         attributes := [("prefix", "Oil"), ("lnClass", "SIMG"), ("inst", "1")]
         children := [] }],
     deviceOf "Gateway" "LD1"
      [{ name := "LN"
         attributes := [("prefix", "Gas"), ("lnClass", "SIMG"), ("inst", "1")]
         children := [] }]]
    []

def referencesScl : XmlElement :=
  (referencesFile.firstChildElement "SCL").getD
    { name := "SCL", attributes := [], children := [] }

def referencesResult : ParseResult :=
  { nodes := [{ path := "GatewayLD1/SIMG1.Pres", fc := "MX" }]
    dataSets := [{ name := "Gases", fcdaPaths := ["GatewayLD1/SIMG1.Pres"] }]
    reports := [] }

theorem references_agree_iff_gases :
    (∀ ln ∈ logicalNodes referencesScl, ∀ other ∈ logicalNodes referencesScl,
      (ln.lnRef = other.lnRef ↔
        ln.iedName ++ ln.ldInst = other.iedName ++ other.ldInst ∧
          ln.lnClass ++ ln.inst = other.lnClass ++ other.inst)) ∧
    { path := "GatewayLD1/SIMG1.Pres", fc := "MX" } ∈ referencesResult.nodes := by
  have accepted : parse (fun _ => none) (some referencesFile) =
    .ok referencesResult := rfl
  have agree := references_agree_iff (fun _ => none)
    (show referencesFile.firstChildElement "SCL" = some referencesScl from rfl)
    accepted
  refine ⟨fun ln member other otherMember =>
    (agree.1 (by decide) ln member other otherMember).1, ?_⟩
  have entry : ∃ ln ∈ logicalNodes referencesScl,
      ∃ ds ∈ ln.element.childElements "DataSet", ∃ fcda ∈ ds.childElements "FCDA",
        ∃ designated ∈ logicalNodes referencesScl,
          designated.DesignatedBy ln.iedName fcda ∧
          fcda.attribute? "fc" = some "MX" ∧
          designated.lnRef ++ "." ++ objectPath fcda = "GatewayLD1/SIMG1.Pres" := by
    decide
  obtain ⟨ln, member, ds, set, fcda, inSet, node, nodeMember, designated, constrained,
    path⟩ := entry
  have listed := (agree.2 ln member ds set fcda inSet node nodeMember designated).2
    "MX" constrained
  rwa [path] at listed

/-- Neither the prefix nor the place where the names on the left are joined is
seen in a reference. -/
theorem references_collide :
    (¬∀ scl, ∀ ln ∈ logicalNodes scl, ∀ other ∈ logicalNodes scl,
      (ln.iedName ≠ other.iedName ∨ ln.ldInst ≠ other.ldInst ∨
        ln.lnPrefix ≠ other.lnPrefix ∨ ln.lnClass ≠ other.lnClass ∨
        ln.inst ≠ other.inst) → ln.lnRef ≠ other.lnRef) ∧
    ¬∀ ln ∈ logicalNodes referencesScl, ∀ other ∈ logicalNodes referencesScl,
      ln.iedName ≠ other.iedName → ln.lnRef ≠ other.lnRef := by
  constructor
  · intro differ
    have atFile := differ referencesScl
    revert atFile
    decide
  · decide

end DataGateway.Iec61850
