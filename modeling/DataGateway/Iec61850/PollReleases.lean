import DataGateway.Foundation.Handles
import DataGateway.Foundation.Runs
import DataGateway.Iec61850.Polling
import DataGateway.Iec61850.StructureReports

/-!
# What a poll pass owns

The loop over the nodes in `readAllValues` with the values that libiec61850
hands out, the error variable that the nodes share, and the strings that are
made of C strings.  As long as a read gives a value exactly when it succeeds,
every value is released by the node that has read it.
-/

namespace DataGateway.Iec61850

open Foundation Redis

/-- `IED_ERROR_OK`. -/
def iedErrorOk : Nat := 0

/-- What a call of `IedConnection_readObject` leaves in `error` and returns. -/
structure ObjectRead where
  error : Nat
  value : Option MmsValue

namespace ObjectRead

def outcome (read : ObjectRead) : ReadOutcome :=
  { ok := read.error == iedErrorOk
    value := read.value }

/-- A value on success and NULL on failure. -/
def Conforms (read : ObjectRead) : Prop :=
  read.value.isSome = true ↔ read.error = iedErrorOk

end ObjectRead

/-- The variables of a pass: the error code, the reads made so far and the
values returned by them. -/
structure PassState where
  error : Nat
  taken : Nat
  values : HandleTable

/-- A misuse of a value, or a `std::string` made of a null pointer. -/
inductive PassFault
  | handle (fault : HandleFault)
  | nullString
  deriving DecidableEq

inductive PollAction
  | skipped (node : DataNode)
  | read (node : DataNode)
  | stored (call : StoreCall)
  | shown (path : String) (shown : Shown)
  | emptyString (path : String)
  | parsed (event : ParseEvent)
  | unsupported (path : String) (type : Nat)
  | failed (path : String) (error : Nat) (valueStr : String)

section Polling

variable {VarSpec : Type*} (library : MmsLibrary VarSpec)

/-- The switch over the type of a value. -/
def dispatchValue (path : String) : MmsValue → List PollAction
  | .scalar (.string none) | .scalar (.visibleString none) =>
      [.stored (.storeString path ""), .emptyString path]
  | .scalar (.utcTime ms) =>
      [.shown path (.utcTime ms), .stored (.storeLInt path ms.toInt64)]
  | .scalar scalar => [.stored (scalar.storeCall path), .shown path scalar.shown]
  | .struct elements =>
      (parseEvents library (.struct elements) path none 0 "").map .parsed
  | .unsupported type => [.unsupported path type]

/-- `MmsValue_delete`, at the end of the loop's body. -/
def PassState.delete (state : PassState) (handle : Nat)
    (actions : List PollAction) :
    Except PassFault (PassState × List PollAction) :=
  match state.values.release? handle with
  | .error fault => .error (.handle fault)
  | .ok values => .ok ({ state with values := values }, actions)

/-- The body of the loop over the nodes; `mmsText` is `MmsValue_toString`. -/
def pollNode (mmsText : MmsValue → Option String) (reads : Nat → ObjectRead)
    (state : PassState) (node : DataNode) :
    Except PassFault (PassState × List PollAction) :=
  if !node.polled then .ok (state, [.skipped node])
  else
    let read := reads state.taken
    let error := read.error
    let taken := state.taken + 1
    match read.value with
    | none =>
        .ok ({ state with error := error, taken := taken },
          [.read node, .failed node.path error "nullptr"])
    | some value =>
        let handle := state.values.issued
        let state : PassState :=
          { error := error
            taken := taken
            values := state.values.acquire }
        if error = iedErrorOk then
          -- The filter once more, with a way out that skips the release.
          if !contains node.path "/SPTR01." then .ok (state, [.read node])
          else
            match state.values.use (some handle) with
            | .error fault => .error (.handle fault)
            | .ok _ =>
                state.delete handle
                  (.read node :: dispatchValue library node.path value)
        else
          match mmsText value with
          | none => .error .nullString
          | some text =>
              state.delete handle [.read node, .failed node.path error text]

end Polling

def PollAction.read? : PollAction → Option DataNode
  | .read node => some node
  | _ => none

def PollAction.stored? : PollAction → Option StoreCall
  | .stored call => some call
  | .parsed event => event.stored?
  | _ => none

section Claims

variable {VarSpec : Type*} (library : MmsLibrary VarSpec)

/-- A node does not fault.  It reads once if it passes the filter, makes the
store calls of its own read, and deletes no part of the value. -/
def PollsAlone (reads : Nat → ObjectRead) (state : PassState) (node : DataNode)
    (result : Except PassFault (PassState × List PollAction)) : Prop :=
  ∃ next actions, result = .ok (next, actions) ∧
    actions.filterMap PollAction.read? = (if node.polled then [node] else []) ∧
    next.taken = state.taken + (if node.polled then 1 else 0) ∧
    actions.filterMap PollAction.stored? =
      readNode library (reads state.taken).outcome node ∧
    ∀ subValue, .parsed (.deleted subValue) ∉ actions

/-- The pass completes with one read for each node that passes the filter, its
values are all released once, and each node polls alone. -/
def PassReleases (mmsText : MmsValue → Option String)
    (reads : Nat → ObjectRead) (error : Nat) (nodes : List DataNode) : Prop :=
  EachStep (pollNode library mmsText reads) (PollsAlone library reads)
      { error := error, taken := 0, values := .empty } nodes ∧
    ∃ final, run (pollNode library mmsText reads)
        { error := error, taken := 0, values := .empty } nodes = .ok final ∧
      final.taken = nodes.countP (·.polled) ∧
      final.values.ReleasedExactlyOnce

end Claims

section

variable {VarSpec : Type*} {library : MmsLibrary VarSpec}

private theorem dispatchValue_reads (path : String) (value : MmsValue) :
    (dispatchValue library path value).filterMap PollAction.read? = [] := by
  cases value with
  | unsupported type => rfl
  | struct elements =>
      rw [dispatchValue, List.filterMap_map, List.filterMap_eq_nil_iff]
      intro event _
      rfl
  | scalar scalar =>
      cases scalar with
      | string text | visibleString text => cases text <;> rfl
      | _ => rfl

theorem dispatchValue_stores (path : String) (value : MmsValue) :
    (dispatchValue library path value).filterMap PollAction.stored? =
      match value with
      | .scalar scalar => [scalar.storeCall path]
      | .struct elements =>
          parseStructure library (.struct elements) path none 0 ""
      | .unsupported _ => [] := by
  cases value with
  | unsupported type => rfl
  | struct elements =>
      rw [dispatchValue, List.filterMap_map]
      exact parseEvents_stores (.struct elements) path none 0 ""
  | scalar scalar =>
      cases scalar with
      | string text | visibleString text => cases text <;> rfl
      | _ => rfl

private theorem dispatchValue_intact (path : String) (value subValue : MmsValue) :
    .parsed (.deleted subValue) ∉ dispatchValue library path value := by
  intro member
  cases value with
  | unsupported type => cases List.mem_singleton.mp member
  | struct elements =>
      obtain ⟨event, inside, same⟩ := List.mem_map.mp member
      cases same
      rcases parseEvents_kinds library path 0 elements (by simp) _ inside with
        ⟨line, logged⟩ | ⟨subElements, took⟩
      · cases logged
      · cases took
  | scalar scalar =>
      cases scalar with
      | string text | visibleString text =>
          cases text <;> simp [dispatchValue] at member
      | _ => simp [dispatchValue] at member

theorem PassState.delete_sole (state : PassState) {handle : Nat}
    (sole : SoleOwner state.values (some handle)) (actions : List PollAction) :
    ∃ next, state.delete handle actions = .ok (next, actions) ∧
      next.taken = state.taken ∧ SoleOwner next.values none := by
  refine ⟨{ state with values := state.values.release handle sole.live }, ?_,
    rfl, sole.release⟩
  simp only [PassState.delete, HandleTable.release?_of_live sole.live]

/-- What a node leaves that polls alone: its actions, and no value. -/
structure LeavesAlone (library : MmsLibrary VarSpec) (reads : Nat → ObjectRead)
    (state : PassState) (node : DataNode) (next : PassState)
    (actions : List PollAction) : Prop where
  once : actions.filterMap PollAction.read? =
    if node.polled then [node] else []
  taken : next.taken = state.taken + (if node.polled then 1 else 0)
  stores : actions.filterMap PollAction.stored? =
    readNode library (reads state.taken).outcome node
  intact : ∀ subValue, .parsed (.deleted subValue) ∉ actions
  released : SoleOwner next.values none

section

variable {reads : Nat → ObjectRead} {state : PassState} {node : DataNode}

private theorem leavesAlone_skipped (library : MmsLibrary VarSpec)
    (clean : SoleOwner state.values none) (polled : node.polled = false) :
    LeavesAlone library reads state node state [.skipped node] := by
  refine ⟨?_, ?_, ?_, ?_, clean⟩
  · simp [PollAction.read?, polled]
  · simp [polled]
  · simp [PollAction.stored?, readNode, polled]
  · simp

/-- A read without a value has an error, so it counts as failed. -/
theorem leavesAlone_failed (library : MmsLibrary VarSpec)
    (conforms : (reads state.taken).Conforms)
    (clean : SoleOwner state.values none) (polled : node.polled = true)
    (missing : (reads state.taken).value = none) :
    LeavesAlone library reads state node
      { state with
        error := (reads state.taken).error
        taken := state.taken + 1 }
      [.read node, .failed node.path (reads state.taken).error "nullptr"] := by
  have failed : (reads state.taken).error ≠ iedErrorOk := by
    intro success
    rw [ObjectRead.Conforms, missing] at conforms
    cases conforms.mpr success
  refine ⟨?_, ?_, ?_, ?_, clean⟩
  · simp [PollAction.read?, polled]
  · simp [polled]
  · simp [PollAction.stored?, readNode, polled, ObjectRead.outcome,
      ReadOutcome.read?, failed]
  · simp

private theorem leavesAlone_dispatched (library : MmsLibrary VarSpec)
    (success : (reads state.taken).error = iedErrorOk)
    (polled : node.polled = true)
    (again : contains node.path "/SPTR01." = true) {value : MmsValue}
    (returned : (reads state.taken).value = some value) {next : PassState}
    (taken : next.taken = state.taken + 1)
    (released : SoleOwner next.values none) :
    LeavesAlone library reads state node next
      (.read node :: dispatchValue library node.path value) := by
  refine ⟨?_, ?_, ?_, ?_, released⟩
  · simp [PollAction.read?, dispatchValue_reads, polled]
  · simp [taken, polled]
  · simp only [List.filterMap_cons, PollAction.stored?, dispatchValue_stores]
    simp only [readNode, polled, ObjectRead.outcome, ReadOutcome.read?, success,
      returned, again]
    cases value <;> rfl
  · intro subValue member
    rcases List.mem_cons.mp member with here | later
    · cases here
    · exact dispatchValue_intact node.path value subValue later

/-- A node that starts without values completes and leaves none. -/
theorem pollNode_leavesAlone (library : MmsLibrary VarSpec)
    (mmsText : MmsValue → Option String)
    (conforms : (reads state.taken).Conforms)
    (clean : SoleOwner state.values none) (node : DataNode) :
    ∃ next actions,
      pollNode library mmsText reads state node = .ok (next, actions) ∧
      LeavesAlone library reads state node next actions := by
  cases polled : node.polled with
  | false =>
      refine ⟨state, [.skipped node], ?_,
        leavesAlone_skipped library clean polled⟩
      simp [pollNode, polled]
  | true =>
      cases returned : (reads state.taken).value with
      | none =>
          refine ⟨_, _, ?_,
            leavesAlone_failed library conforms clean polled returned⟩
          simp [pollNode, polled, returned]
      | some value =>
          have success : (reads state.taken).error = iedErrorOk := by
            apply conforms.mp
            rw [returned]
            rfl
          have again : contains node.path "/SPTR01." = true := by
            simp [DataNode.polled] at polled
            exact polled.1.1
          have sole := clean.acquire
          let acquired : PassState :=
            ⟨iedErrorOk, state.taken + 1, state.values.acquire⟩
          obtain ⟨next, deleted, taken, released⟩ :=
            acquired.delete_sole sole
              (.read node :: dispatchValue library node.path value)
          refine ⟨next, _, ?_, leavesAlone_dispatched library success polled
            again returned taken released⟩
          simp only [pollNode, polled, returned, success, again,
            HandleTable.use_of_live sole.live]
          exact deleted

end

private theorem pollNode_run (library : MmsLibrary VarSpec)
    (mmsText : MmsValue → Option String) {reads : Nat → ObjectRead}
    (conforms : ∀ index, (reads index).Conforms)
    {state : PassState} (clean : SoleOwner state.values none)
    (nodes : List DataNode) :
    EachStep (pollNode library mmsText reads) (PollsAlone library reads) state
        nodes ∧
      ∃ final, run (pollNode library mmsText reads) state nodes = .ok final ∧
        final.taken = state.taken + nodes.countP (·.polled) ∧
        SoleOwner final.values none := by
  induction nodes generalizing state with
  | nil => exact ⟨trivial, state, rfl, rfl, clean⟩
  | cons node nodes induction =>
      obtain ⟨next, actions, result, alone⟩ := pollNode_leavesAlone library
        mmsText (conforms state.taken) clean node
      obtain ⟨each, final, completed, total, sole⟩ :=
        induction alone.released
      have polls : PollsAlone library reads state node
          (pollNode library mmsText reads state node) :=
        ⟨next, actions, result, alone.once, alone.taken, alone.stores,
          alone.intact⟩
      refine ⟨.cons polls result each, final, ?_, ?_, sole⟩
      · simp only [run, result]
        exact completed
      · rw [total, alone.taken, List.countP_cons]
        cases node.polled with
        | false => simp
        | true =>
            simp
            omega

end

/-- Under the contract of `IedConnection_readObject` every pass releases what
it has read, whatever `error` holds at first. -/
theorem passReleases {VarSpec : Type*} (library : MmsLibrary VarSpec)
    (mmsText : MmsValue → Option String) (reads : Nat → ObjectRead)
    (error : Nat) (nodes : List DataNode)
    (conforms : ∀ index, (reads index).Conforms) :
    PassReleases library mmsText reads error nodes := by
  let start : PassState := ⟨error, 0, .empty⟩
  have clean : SoleOwner start.values none := SoleOwner.empty
  obtain ⟨each, final, completed, total, sole⟩ :=
    pollNode_run library mmsText conforms clean nodes
  exact ⟨each, final, completed, by simpa [start] using total, sole.releasedExactlyOnce⟩

/-- A read that succeeds and one that fails, of a member that is then skipped
as a control. -/
theorem passReleases_supDevRun :
    PassReleases noSubElements (fun _ => none)
      (fun index =>
        if index = 0 then ⟨iedErrorOk, (supDevRunRead index).value⟩
        else ⟨20, none⟩)
      20 [supDevRun, supDevRun, { supDevRun with fc := "CO" }] := by
  apply passReleases
  intro index
  by_cases first : index = 0
  · simp [first, ObjectRead.Conforms, supDevRunRead]
  · simp [first, ObjectRead.Conforms, iedErrorOk]

end DataGateway.Iec61850
