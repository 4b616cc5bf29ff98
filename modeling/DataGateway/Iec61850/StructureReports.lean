import DataGateway.Iec61850.Values

/-!
# What `parseStructure` reports

The calls of `parseStructure` in order: its log lines, its store calls, the
values whose time it asks for and those that it deletes.  Its two modes share
the slip that a time is read from the structure and not from the element, and
the mode for a target path deletes the element it has found.
-/

namespace DataGateway.Iec61850

open Redis

/-- What a log line shows of a leaf. -/
inductive Shown
  | boolean (val : Bool)
  | integer (val : Int64)
  | unsigned (val : UInt64)
  | float (val : Float)
  | string (str : String)
  | bitString (bitStr : String)
  | utcTime (msTimestamp : UInt64)

def MmsScalar.shown : MmsScalar → Shown
  | .boolean value => .boolean value
  | .integer value => .integer value
  | .unsigned value => .unsigned value
  | .float value => .float value
  | .string value | .visibleString value =>
      .string (value.getD "empty string")
  | .bitString bits =>
      .bitString (String.ofList (bits.map fun bit => if bit then '1' else '0'))
  | .utcTime ms => .utcTime ms

/-- The log lines of `parseStructure`, with their indent where they have one. -/
inductive LogLine
  | leaf (indent : Nat) (path : String) (shown : Shown)
  | structure (indent : Nat) (path : String)
  | unsupported (indent : Nat) (path : String) (type : Nat)
  | invalidStructure (path : String)
  | tooDeep (indent : Nat) (path : String)
  | missingElement (indent : Nat) (index : Nat) (path : String)
  | missingSubElement (indent : Nat) (targetPath path : String)

inductive ParseEvent
  | logged (line : LogLine)
  | stored (call : StoreCall)
  | tookTime (argument : MmsValue)
  | deleted (subValue : MmsValue)

/-- The name of an element in the log. -/
def elementPath (path : String) (index : Nat) : String :=
  path ++ "[" ++ toString index ++ "]"

section Tracing

variable {VarSpec : Type*} (library : MmsLibrary VarSpec)

/-- A leaf in the two switches, of which one `stores`.  The time is that of
`value`, the structure. -/
def scalarEvents (value : MmsValue) (stores : Bool) (indent : Nat)
    (subPath : String) : MmsScalar → List ParseEvent
  | .utcTime _ =>
      let msTimestamp := library.getUtcTimeInMs value
      .tookTime value ::
        (if stores then [.stored (.storeLInt subPath msTimestamp.toInt64)]
          else []) ++
        [.logged (.leaf 0 subPath (.utcTime msTimestamp))]
  | subValue =>
      (if stores then [.stored (subValue.storeCall subPath)] else []) ++
        [.logged (.leaf indent subPath subValue.shown)]

/-- The switch over the type of an element, with the recursive call for a
structure. -/
def subValueEvents (value : MmsValue) (stores : Bool) (indent : Nat)
    (subPath : String) (nested : List (Option MmsValue) → List ParseEvent) :
    MmsValue → List ParseEvent
  | .scalar subValue => scalarEvents library value stores indent subPath subValue
  | .struct subElements =>
      .logged (.structure indent subPath) :: nested subElements
  | .unsupported type => [.logged (.unsupported indent subPath type)]

/-- `parseStructure` with all that it does. -/
def parseEvents (value : MmsValue) (nodePath : String)
    (varSpec : Option VarSpec) (indentLevel : Nat) (targetPath : String) :
    List ParseEvent :=
  let indent := indentLevel * 2
  match value with
  | .struct elements =>
      if 10 < indentLevel then [.logged (.tooDeep indent nodePath)]
      else
        match if targetPath = "" then none else varSpec with
        | some spec =>
            match library.getSubElement value spec targetPath with
            | none => [.logged (.missingSubElement indent targetPath nodePath)]
            | some subValue =>
                let subPath := nodePath ++ "." ++ targetPath
                subValueEvents library value true indent subPath
                    (fun subElements =>
                      parseEvents (.struct subElements) subPath none
                        (indentLevel + 1) "")
                    subValue ++
                  [.deleted subValue]
        | none =>
            elements.zipIdx.flatMap fun (subValue, i) =>
              match subValue with
              | none => [.logged (.missingElement indent i nodePath)]
              | some subValue =>
                  let subPath := elementPath nodePath i
                  subValueEvents library value false indent subPath
                    (fun subElements =>
                      parseEvents (.struct subElements) subPath none
                        (indentLevel + 1) "")
                    subValue
  | .scalar _ | .unsupported _ => [.logged (.invalidStructure nodePath)]
termination_by 11 - indentLevel

end Tracing

/-- The leaf that a log line is about, with what it shows. -/
def ParseEvent.report? : ParseEvent → Option (String × Shown)
  | .logged (.leaf _ path shown) => some (path, shown)
  | _ => none

def ParseEvent.stored? : ParseEvent → Option StoreCall
  | .stored call => some call
  | _ => none

/-- The value is of the type on which `MmsValue_getUtcTimeInMs` is defined. -/
def MmsValue.IsTime (value : MmsValue) : Prop :=
  ∃ ms, value = .scalar (.utcTime ms)

def leafPath (path : String) (position : List Nat) : String :=
  position.foldl elementPath path

/-- The leaves of a value down to the depth limit, in index order. -/
def visitedLeaves (value : MmsValue) (path : String) (indentLevel : Nat) :
    List (String × MmsScalar) :=
  (value.leaves.filter fun leaf => leaf.1.length + indentLevel ≤ 11).map
    fun (position, leaf) => (leafPath path position, leaf)

section Claims

variable {VarSpec : Type*} (library : MmsLibrary VarSpec)

/-- The leaves that a call visits: those of the element that a target path
names, or all of them. -/
def calledLeaves (value : MmsValue) (nodePath : String)
    (varSpec : Option VarSpec) (indentLevel : Nat) (targetPath : String) :
    List (String × MmsScalar) :=
  match if targetPath = "" then none else varSpec with
  | none => visitedLeaves value nodePath indentLevel
  | some spec =>
      if 10 < indentLevel then []
      else
        match library.getSubElement value spec targetPath with
        | none => []
        | some subValue =>
            visitedLeaves subValue (nodePath ++ "." ++ targetPath)
              (indentLevel + 1)

/-- Every leaf is reported once, in order, as what it is; what is stored is a
part of the leaves, in order; the time is only asked of times; and nothing is
deleted. -/
structure ReportsLeaves (value : MmsValue) (nodePath : String)
    (varSpec : Option VarSpec) (indentLevel : Nat) (targetPath : String) :
    Prop where
  defined : ∀ argument, .tookTime argument ∈
      parseEvents library value nodePath varSpec indentLevel targetPath →
    argument.IsTime
  reports :
    (parseEvents library value nodePath varSpec indentLevel
        targetPath).filterMap ParseEvent.report? =
      (calledLeaves library value nodePath varSpec indentLevel targetPath).map
        fun (path, leaf) => (path, leaf.shown)
  stores :
    ((parseEvents library value nodePath varSpec indentLevel
        targetPath).filterMap ParseEvent.stored?).Sublist
      ((calledLeaves library value nodePath varSpec indentLevel targetPath).map
        fun (path, leaf) => leaf.storeCall path)
  intact : ∀ subValue, .deleted subValue ∉
    parseEvents library value nodePath varSpec indentLevel targetPath

/-- The target path names nothing, or there is none and no leaf down to the
depth limit is a time. -/
def SparesTimes (value : MmsValue) (varSpec : Option VarSpec)
    (indentLevel : Nat) (targetPath : String) : Prop :=
  match if targetPath = "" then none else varSpec with
  | some spec =>
      10 < indentLevel ∨ library.getSubElement value spec targetPath = none
  | none =>
      ∀ leaf ∈ value.leaves, leaf.1.length + indentLevel ≤ 11 →
        ∀ ms, leaf.2 ≠ .utcTime ms

end Claims

private theorem leavesFrom_eq_flatMap (index : Nat) (elements : List (Option MmsValue)) :
    leavesFrom index elements =
      (elements.zipIdx index).flatMap fun (element, i) =>
        match element with
        | none => []
        | some element =>
            element.leaves.map fun (position, leaf) => (i :: position, leaf) := by
  induction elements generalizing index with
  | nil => rfl
  | cons element elements induction =>
      cases element with
      | none => simp [leavesFrom, induction]
      | some element => simp [leavesFrom, induction]

/-- The leaves of one element, as the loop over the elements reaches them. -/
def elementLeaves (path : String) (indentLevel : Nat) :
    Option MmsValue × Nat → List (String × MmsScalar)
  | (none, _) => []
  | (some element, i) =>
      visitedLeaves element (elementPath path i) (indentLevel + 1)

theorem visitedLeaves_struct (elements : List (Option MmsValue)) (path : String)
    (indentLevel : Nat) :
    visitedLeaves (.struct elements) path indentLevel =
      elements.zipIdx.flatMap (elementLeaves path indentLevel) := by
  simp only [visitedLeaves, MmsValue.leaves, leavesFrom_eq_flatMap,
    List.filter_flatMap, List.map_flatMap]
  apply List.flatMap_congr
  rintro ⟨element, i⟩ _
  cases element with
  | none => rfl
  | some element =>
      simp only [elementLeaves, visitedLeaves, List.filter_map, List.map_map]
      congr 1
      apply List.filter_congr
      intro leaf _
      simp only [Function.comp, List.length_cons]
      exact decide_eq_decide.mpr (by omega)

theorem visitedLeaves_scalar {indentLevel : Nat} (within : indentLevel ≤ 11)
    (scalar : MmsScalar) (path : String) :
    visitedLeaves (.scalar scalar) path indentLevel = [(path, scalar)] := by
  simp [visitedLeaves, MmsValue.leaves, leafPath, within]

private theorem visitedLeaves_tooDeep {indentLevel : Nat} (tooDeep : 10 < indentLevel)
    (elements : List (Option MmsValue)) (path : String) :
    visitedLeaves (.struct elements) path indentLevel = [] := by
  rw [visitedLeaves_struct, List.flatMap_eq_nil_iff]
  rintro ⟨element, i⟩ _
  cases element with
  | none => rfl
  | some element =>
      simp only [elementLeaves, visitedLeaves, List.map_eq_nil_iff,
        List.filter_eq_nil_iff, decide_eq_true_eq]
      omega

section

variable {VarSpec : Type*} {library : MmsLibrary VarSpec} {path : String}
  {indentLevel : Nat}

/-- The loop over the elements. -/
def elementEvents (library : MmsLibrary VarSpec) (value : MmsValue)
    (path : String) (indentLevel : Nat) :
    Option MmsValue × Nat → List ParseEvent
  | (none, i) => [.logged (.missingElement (indentLevel * 2) i path)]
  | (some subValue, i) =>
      subValueEvents library value false (indentLevel * 2) (elementPath path i)
        (fun subElements =>
          parseEvents library (.struct subElements) (elementPath path i) none
            (indentLevel + 1) "")
        subValue

theorem parseEvents_tooDeep (tooDeep : 10 < indentLevel)
    (elements : List (Option MmsValue)) (varSpec : Option VarSpec)
    (targetPath : String) :
    parseEvents library (.struct elements) path varSpec indentLevel targetPath =
      [.logged (.tooDeep (indentLevel * 2) path)] := by
  rw [parseEvents]
  simp [tooDeep]

theorem parseEvents_elements (within : ¬10 < indentLevel)
    (elements : List (Option MmsValue)) {varSpec : Option VarSpec}
    {targetPath : String} (whole : (if targetPath = "" then none else varSpec) =
      none) :
    parseEvents library (.struct elements) path varSpec indentLevel targetPath =
      elements.zipIdx.flatMap
        (elementEvents library (.struct elements) path indentLevel) := by
  rw [parseEvents]
  simp only [within, if_false, whole]
  apply List.flatMap_congr
  rintro ⟨element, i⟩ _
  cases element <;> rfl

theorem parseEvents_target (within : ¬10 < indentLevel)
    (elements : List (Option MmsValue)) {varSpec : Option VarSpec}
    {targetPath : String} {spec : VarSpec}
    (target : (if targetPath = "" then none else varSpec) = some spec) :
    parseEvents library (.struct elements) path varSpec indentLevel targetPath =
      match library.getSubElement (.struct elements) spec targetPath with
      | none =>
          [.logged (.missingSubElement (indentLevel * 2) targetPath path)]
      | some subValue =>
          subValueEvents library (.struct elements) true (indentLevel * 2)
              (path ++ "." ++ targetPath)
              (fun subElements =>
                parseEvents library (.struct subElements)
                  (path ++ "." ++ targetPath) none (indentLevel + 1) "")
              subValue ++
            [.deleted subValue] := by
  rw [parseEvents]
  simp only [within, if_false, target]

/-- A leaf is logged for what it is, unless it is a time, which the library is
then asked of the structure. -/
theorem scalarEvents_cases (library : MmsLibrary VarSpec) (value : MmsValue)
    (stores : Bool) (indent : Nat) (subPath : String) (scalar : MmsScalar) :
    (∃ ms, scalar = .utcTime ms) ∧
      .tookTime value ∈ scalarEvents library value stores indent subPath scalar ∨
    (∀ ms, scalar ≠ .utcTime ms) ∧
      scalarEvents library value stores indent subPath scalar =
        (if stores then [.stored (scalar.storeCall subPath)] else []) ++
          [.logged (.leaf indent subPath scalar.shown)] := by
  cases scalar with
  | utcTime ms => exact .inl ⟨⟨ms, rfl⟩, by simp [scalarEvents]⟩
  | _ => exact .inr ⟨by simp, rfl⟩

/-- Without a target path a call only logs, and asks structures for times. -/
theorem parseEvents_kinds (library : MmsLibrary VarSpec) (path : String)
    (indentLevel : Nat) (elements : List (Option MmsValue))
    {varSpec : Option VarSpec} {targetPath : String}
    (whole : (if targetPath = "" then none else varSpec) = none) :
    ∀ event ∈
      parseEvents library (.struct elements) path varSpec indentLevel targetPath,
      (∃ line, event = .logged line) ∨
        ∃ subElements, event = .tookTime (.struct subElements) := by
  intro event member
  by_cases tooDeep : 10 < indentLevel
  · rw [parseEvents_tooDeep tooDeep] at member
    exact .inl ⟨_, List.mem_singleton.mp member⟩
  · rw [parseEvents_elements tooDeep elements whole] at member
    obtain ⟨⟨element, i⟩, _, inside⟩ := List.mem_flatMap.mp member
    cases element with
    | none => exact .inl ⟨_, List.mem_singleton.mp inside⟩
    | some subValue =>
        cases subValue with
        | unsupported type => exact .inl ⟨_, List.mem_singleton.mp inside⟩
        | struct subElements =>
            rcases List.mem_cons.mp inside with here | deeper
            · exact .inl ⟨_, here⟩
            · exact parseEvents_kinds library (elementPath path i)
                (indentLevel + 1) subElements (by simp) event deeper
        | scalar scalar =>
            simp only [elementEvents, subValueEvents] at inside
            cases scalar with
            | utcTime ms =>
                simp only [scalarEvents] at inside
                rcases List.mem_cons.mp inside with here | later
                · exact .inr ⟨elements, here⟩
                · exact .inl ⟨_, List.mem_singleton.mp later⟩
            | _ => exact .inl ⟨_, List.mem_singleton.mp inside⟩
termination_by 11 - indentLevel

theorem tookTime_of_visited (path : String) (indentLevel : Nat)
    (elements : List (Option MmsValue)) {leaf : String × MmsScalar} {ms : UInt64}
    (visited : leaf ∈ visitedLeaves (.struct elements) path indentLevel)
    (time : leaf.2 = .utcTime ms) :
    ∃ argument, .tookTime argument ∈
      parseEvents library (.struct elements) path none indentLevel "" := by
  by_cases tooDeep : 10 < indentLevel
  · rw [visitedLeaves_tooDeep tooDeep] at visited
    cases visited
  · rw [visitedLeaves_struct] at visited
    rw [parseEvents_elements tooDeep elements (by simp)]
    obtain ⟨⟨element, i⟩, member, inside⟩ := List.mem_flatMap.mp visited
    cases element with
    | none => cases inside
    | some subValue =>
        cases subValue with
        | unsupported type => cases inside
        | struct subElements =>
            obtain ⟨argument, took⟩ := tookTime_of_visited (elementPath path i)
              (indentLevel + 1) subElements inside time
            exact ⟨argument, List.mem_flatMap.mpr
              ⟨_, member, List.mem_cons_of_mem _ took⟩⟩
        | scalar scalar =>
            rw [elementLeaves, visitedLeaves_scalar (by omega),
              List.mem_singleton] at inside
            subst inside
            refine ⟨.struct elements, List.mem_flatMap.mpr ⟨_, member, ?_⟩⟩
            rcases scalarEvents_cases library (.struct elements)
              false (indentLevel * 2) (elementPath path i) scalar with
              ⟨_, took⟩ | ⟨other, _⟩
            · exact took
            · exact (other ms time).elim
termination_by 11 - indentLevel

theorem visited_of_tookTime (path : String) (indentLevel : Nat)
    (elements : List (Option MmsValue)) {argument : MmsValue}
    (took : .tookTime argument ∈
      parseEvents library (.struct elements) path none indentLevel "") :
    ∃ leaf ∈ visitedLeaves (.struct elements) path indentLevel,
      ∃ ms, leaf.2 = .utcTime ms := by
  by_cases tooDeep : 10 < indentLevel
  · rw [parseEvents_tooDeep tooDeep] at took
    cases List.mem_singleton.mp took
  · rw [parseEvents_elements tooDeep elements (by simp)] at took
    rw [visitedLeaves_struct]
    obtain ⟨⟨element, i⟩, member, inside⟩ := List.mem_flatMap.mp took
    cases element with
    | none => cases List.mem_singleton.mp inside
    | some subValue =>
        cases subValue with
        | unsupported type => cases List.mem_singleton.mp inside
        | struct subElements =>
            rcases List.mem_cons.mp inside with logged | deeper
            · cases logged
            · obtain ⟨leaf, visited, time⟩ := visited_of_tookTime
                (elementPath path i) (indentLevel + 1) subElements deeper
              exact ⟨leaf, List.mem_flatMap.mpr ⟨_, member, visited⟩, time⟩
        | scalar scalar =>
            rcases scalarEvents_cases library (.struct elements)
              false (indentLevel * 2) (elementPath path i) scalar with
              ⟨time, _⟩ | ⟨_, same⟩
            · refine ⟨(elementPath path i, scalar), ?_, time⟩
              refine List.mem_flatMap.mpr ⟨_, member, ?_⟩
              rw [elementLeaves, visitedLeaves_scalar (by omega)]
              exact List.mem_cons_self
            · simp only [elementEvents, subValueEvents, same] at inside
              cases List.mem_singleton.mp inside
termination_by 11 - indentLevel

theorem parseEvents_reports (path : String) (indentLevel : Nat)
    (elements : List (Option MmsValue))
    (spares : ∀ leaf ∈ visitedLeaves (.struct elements) path indentLevel,
      ∀ ms, leaf.2 ≠ .utcTime ms) :
    (parseEvents library (.struct elements) path none indentLevel "").filterMap
        ParseEvent.report? =
      (visitedLeaves (.struct elements) path indentLevel).map
        fun (path, leaf) => (path, leaf.shown) := by
  by_cases tooDeep : 10 < indentLevel
  · rw [visitedLeaves_tooDeep tooDeep, parseEvents_tooDeep tooDeep]
    rfl
  · rw [visitedLeaves_struct] at spares
    rw [visitedLeaves_struct, parseEvents_elements tooDeep elements (by simp),
      List.filterMap_flatMap, List.map_flatMap]
    apply List.flatMap_congr
    rintro ⟨element, i⟩ member
    cases element with
    | none => rfl
    | some subValue =>
        have sparesHere : ∀ leaf ∈
            visitedLeaves subValue (elementPath path i) (indentLevel + 1),
            ∀ ms, leaf.2 ≠ .utcTime ms := by
          intro leaf inside
          exact spares leaf (List.mem_flatMap.mpr ⟨_, member, inside⟩)
        cases subValue with
        | unsupported type => rfl
        | struct subElements =>
            exact parseEvents_reports (elementPath path i) (indentLevel + 1)
              subElements sparesHere
        | scalar scalar =>
            simp only [elementLeaves, visitedLeaves_scalar
              (show indentLevel + 1 ≤ 11 by omega)] at sparesHere ⊢
            rcases scalarEvents_cases library (.struct elements)
              false (indentLevel * 2) (elementPath path i) scalar with
              ⟨⟨ms, time⟩, _⟩ | ⟨_, same⟩
            · exact (sparesHere _ List.mem_cons_self ms time).elim
            · simp only [elementEvents, subValueEvents, same]
              rfl
termination_by 11 - indentLevel

/-- The store calls are those of `parseStructure` as Redis sees it. -/
theorem parseEvents_stores (value : MmsValue) (nodePath : String)
    (varSpec : Option VarSpec) (indentLevel : Nat) (targetPath : String) :
    (parseEvents library value nodePath varSpec indentLevel
        targetPath).filterMap ParseEvent.stored? =
      parseStructure library value nodePath varSpec indentLevel targetPath := by
  cases value with
  | scalar scalar =>
      rw [parseEvents, parseStructure]
      rfl
  | unsupported type =>
      rw [parseEvents, parseStructure]
      rfl
  | struct elements =>
      rw [parseStructure]
      by_cases tooDeep : 10 < indentLevel
      · rw [parseEvents_tooDeep tooDeep]
        simp only [tooDeep, if_true]
        rfl
      · simp only [tooDeep, if_false]
        cases target : if targetPath = "" then none else varSpec with
        | none =>
            rw [parseEvents_elements tooDeep elements target,
              List.filterMap_flatMap]
            apply List.flatMap_congr
            rintro ⟨element, i⟩ _
            cases element with
            | none => rfl
            | some subValue =>
                cases subValue with
                | unsupported type => rfl
                | scalar scalar => cases scalar <;> rfl
                | struct subElements =>
                    exact parseEvents_stores (.struct subElements)
                      (elementPath nodePath i) none (indentLevel + 1) ""
        | some spec =>
            rw [parseEvents_target tooDeep elements target]
            cases found :
                library.getSubElement (.struct elements) spec targetPath with
            | none =>
                simp only [found]
                rfl
            | some subValue =>
                cases subValue with
                | unsupported type =>
                    simp only [found]
                    rfl
                | scalar scalar =>
                    simp only [found]
                    cases scalar <;> rfl
                | struct subElements =>
                    simp only [found, subValueEvents, List.filterMap_append,
                      List.filterMap_cons, ParseEvent.stored?,
                      List.filterMap_nil, List.append_nil]
                    exact parseEvents_stores (.struct subElements)
                      (nodePath ++ "." ++ targetPath) none (indentLevel + 1) ""
termination_by 11 - indentLevel

private theorem sparesTimes_iff_visited (value : MmsValue) (path : String)
    (indentLevel : Nat) :
    (∀ leaf ∈ value.leaves, leaf.1.length + indentLevel ≤ 11 →
        ∀ ms, leaf.2 ≠ .utcTime ms) ↔
      ∀ leaf ∈ visitedLeaves value path indentLevel,
        ∀ ms, leaf.2 ≠ .utcTime ms := by
  simp only [visitedLeaves, List.forall_mem_map, List.mem_filter,
    decide_eq_true_eq, and_imp]

end

section

variable {VarSpec : Type*} (library : MmsLibrary VarSpec)
  (elements : List (Option MmsValue)) (nodePath : String)
  {varSpec : Option VarSpec} (indentLevel : Nat) {targetPath : String}

theorem parseEvents_iteration
    (target : (if targetPath = "" then none else varSpec) = none) :
    parseEvents library (.struct elements) nodePath varSpec indentLevel
        targetPath =
      parseEvents library (.struct elements) nodePath none indentLevel "" := by
  by_cases tooDeep : 10 < indentLevel
  · rw [parseEvents_tooDeep tooDeep, parseEvents_tooDeep tooDeep]
  · rw [parseEvents_elements tooDeep elements target,
      parseEvents_elements tooDeep elements (by simp)]

theorem reportsLeaves_iteration_iff
    (target : (if targetPath = "" then none else varSpec) = none) :
    ReportsLeaves library (.struct elements) nodePath varSpec indentLevel
        targetPath ↔
      ∀ leaf ∈ visitedLeaves (.struct elements) nodePath indentLevel,
        ∀ ms, leaf.2 ≠ .utcTime ms := by
  have kinds := parseEvents_kinds library nodePath indentLevel elements target
  have same := parseEvents_iteration library elements nodePath indentLevel target
  constructor
  · intro reports leaf visited ms time
    obtain ⟨argument, took⟩ :=
      tookTime_of_visited nodePath indentLevel elements visited time
    rw [← same] at took
    obtain ⟨_, isTime⟩ := reports.defined argument took
    rcases kinds _ took with ⟨line, logged⟩ | ⟨subElements, structured⟩
    · cases logged
    · cases structured
      cases isTime
  · intro spares
    constructor
    · intro argument took
      rw [same] at took
      obtain ⟨leaf, visited, ms, time⟩ :=
        visited_of_tookTime nodePath indentLevel elements took
      exact (spares leaf visited ms time).elim
    · rw [same, parseEvents_reports nodePath indentLevel elements spares]
      simp only [calledLeaves, target]
    · have none : (parseEvents library (.struct elements) nodePath varSpec
          indentLevel targetPath).filterMap ParseEvent.stored? = [] := by
        rw [List.filterMap_eq_nil_iff]
        intro event member
        rcases kinds event member with ⟨line, rfl⟩ | ⟨subElements, rfl⟩
        · rfl
        · rfl
      rw [none]
      exact List.nil_sublist _
    · intro subValue member
      rcases kinds _ member with ⟨line, logged⟩ | ⟨subElements, took⟩
      · cases logged
      · cases took

theorem parseEvents_unreached {spec : VarSpec}
    (target : (if targetPath = "" then none else varSpec) = some spec)
    (unreached : 10 < indentLevel ∨
      library.getSubElement (.struct elements) spec targetPath = none) :
    ∃ line, parseEvents library (.struct elements) nodePath varSpec
        indentLevel targetPath = [.logged line] ∧
      ParseEvent.report? (.logged line) = none := by
  by_cases tooDeep : 10 < indentLevel
  · exact ⟨_, parseEvents_tooDeep tooDeep elements varSpec targetPath, rfl⟩
  · have missing := unreached.resolve_left tooDeep
    refine ⟨.missingSubElement (indentLevel * 2) targetPath nodePath, ?_, rfl⟩
    rw [parseEvents_target tooDeep elements target]
    simp only [missing]

theorem reportsLeaves_target_iff {spec : VarSpec}
    (target : (if targetPath = "" then none else varSpec) = some spec) :
    ReportsLeaves library (.struct elements) nodePath varSpec indentLevel
        targetPath ↔
      10 < indentLevel ∨
        library.getSubElement (.struct elements) spec targetPath = none := by
  constructor
  · intro reports
    by_contra reached
    obtain ⟨within, found⟩ := not_or.mp reached
    obtain ⟨subValue, element⟩ := Option.ne_none_iff_exists'.mp found
    apply reports.intact subValue
    rw [parseEvents_target within elements target]
    simp only [element]
    exact List.mem_append_right _ List.mem_cons_self
  · intro spares
    obtain ⟨line, events, silent⟩ := parseEvents_unreached library elements
      nodePath indentLevel target spares
    have unvisited : calledLeaves library (.struct elements) nodePath
        varSpec indentLevel targetPath = [] := by
      simp only [calledLeaves, target]
      split
      · rfl
      · next within => simp only [spares.resolve_left within]
    constructor
    · intro argument took
      rw [events] at took
      cases List.mem_singleton.mp took
    · simp only [events, unvisited, List.filterMap_cons, silent,
        List.filterMap_nil, List.map_nil]
    · rw [events]
      exact List.nil_sublist _
    · intro subValue member
      rw [events] at member
      cases List.mem_singleton.mp member

end

/-- A call on a structure reports its leaves for what they are and leaves it
alone if and only if it meets no time and finds no element for a target path. -/
theorem reportsLeaves_iff {VarSpec : Type*} (library : MmsLibrary VarSpec)
    (elements : List (Option MmsValue)) (nodePath : String)
    (varSpec : Option VarSpec) (indentLevel : Nat) (targetPath : String) :
    ReportsLeaves library (.struct elements) nodePath varSpec indentLevel
        targetPath ↔
      SparesTimes library (.struct elements) varSpec indentLevel targetPath := by
  unfold SparesTimes
  cases target : if targetPath = "" then none else varSpec with
  | none =>
      simp only [sparesTimes_iff_visited (.struct elements) nodePath]
      exact reportsLeaves_iteration_iff library elements nodePath indentLevel
        target
  | some spec =>
      exact reportsLeaves_target_iff library elements nodePath indentLevel target

/-- A library that finds the first element of a structure as `stVal`. -/
def statusLibrary : MmsLibrary Unit :=
  { getSubElement := fun value _ mmsPath =>
      match value with
      | .struct (stVal :: _) => if mmsPath = "stVal" then stVal else none
      | _ => none
    getUtcTimeInMs := fun value =>
      match value with
      | .scalar (.utcTime ms) => ms
      | _ => 0 }

/-- The time stamp of a structure is read from the structure, and a status that
is asked for by its name is deleted. -/
theorem not_reportsLeaves_status :
    ¬ReportsLeaves statusLibrary
        (.struct [some (.scalar (.boolean true)),
          some (.scalar (.utcTime 1749340800000))])
        "TEMPLATE105MONT/SPTR01.SupDevRun" none 0 "" ∧
      ¬ReportsLeaves statusLibrary
        (.struct [some (.scalar (.boolean true)),
          some (.scalar (.utcTime 1749340800000))])
        "TEMPLATE105MONT/SPTR01.SupDevRun" (some ()) 0 "stVal" := by
  constructor
  · intro reports
    obtain ⟨ms, time⟩ := reports.defined
      (.struct [some (.scalar (.boolean true)),
        some (.scalar (.utcTime 1749340800000))]) (by
        simp [parseEvents, subValueEvents, scalarEvents])
    cases time
  · intro reports
    apply reports.intact (.scalar (.boolean true))
    simp [parseEvents, subValueEvents, scalarEvents, statusLibrary]

end DataGateway.Iec61850
