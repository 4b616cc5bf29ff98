import DataGateway.Modbus.Coalescing
import DataGateway.Modbus.Contexts
import DataGateway.Modbus.Placement

/-!
# A range that the device refuses

All ranges of a poll are read over the one context `ctx_`.  A read that the
device answers with an exception makes `readRegisters` close that context, so
the rest of the poll finds none, whatever the device would have answered.
-/

namespace DataGateway.Modbus

open Foundation ConfigDataModbus

/-- What `readRegisters` works on during one poll, in which the reconnect
thread takes no step. -/
structure Reading where
  api : Except HandleFault ModbusApi
  reads : Nat

/-- The device refuses the turns in `failing` and otherwise answers as in
`environment`. -/
def readThrough (environment : Environment) (failing : Nat → Bool)
    (reading : Reading) (startAddr : UInt16) (count : Nat) :
    Reading × Option (List UInt16) :=
  let answering :=
    if failing reading.reads then
      { environment with readRegisters := fun _ _ => none }
    else environment
  match reading.api with
  | .error fault => (⟨.error fault, reading.reads + 1⟩, none)
  | .ok api =>
      match api.readRegisters answering startAddr (Int32.ofNat count) with
      | .error fault => (⟨.error fault, reading.reads + 1⟩, none)
      | .ok (next, words) => (⟨.ok next, reading.reads + 1⟩, words)

/-- One call of `processContinuousRegisters` over this connection. -/
def pollThrough (sorter : AddressSort) (environment : Environment)
    (failing : Nat → Bool) (config : ConfigDataModbus) (api : ModbusApi) :
    List Polled :=
  (processContinuousRegisters sorter (readThrough environment failing) config
    ⟨.ok api, 0⟩).1

/-- The words that one turn of the loop read. -/
def wordsRead (turns : List Polled) (turn : Nat) : Option (List UInt16) :=
  turns[turn]?.bind Polled.buffer

/-- Every turn outside `failing` reads what it reads without any failure. -/
def IsolatesFailures (sorter : AddressSort) (environment : Environment)
    (failing : Nat → Bool) (config : ConfigDataModbus) (api : ModbusApi) :
    Prop :=
  ∀ turn words, failing turn = false →
    wordsRead (pollThrough sorter environment (fun _ => false) config api)
      turn = some words →
    wordsRead (pollThrough sorter environment failing config api) turn =
      some words

/-- `ctx_` is set and may be used. -/
def ModbusApi.Usable (api : ModbusApi) : Prop :=
  ∃ handle, api.ctx = some handle ∧ api.contexts.Live handle

/-- What the device answers in each turn, if it is asked. -/
def answers (environment : Environment) (failing : Nat → Bool) (first : Nat) :
    List RegisterRange → List (Option (List UInt16))
  | [] => []
  | range :: rest =>
      (if failing first then none
        else environment.readRegisters range.startAddr
          (Int32.ofNat range.count)) ::
        answers environment failing (first + 1) rest

/-- A turn outside `failing` that comes after one of `failing` is refused
anyway, or another turn before it is. -/
def FailuresLast (sorter : AddressSort) (environment : Environment)
    (failing : Nat → Bool) (config : ConfigDataModbus) : Prop :=
  ∀ earlier later range,
    (ranges (sorter.sort config.dataPoints) 0)[later]? = some range →
    earlier < later → failing earlier = true → failing later = false →
    ∃ turn ≤ later,
      (answers environment (fun _ => false) 0
        (ranges (sorter.sort config.dataPoints) 0))[turn]? = some none

/-- The answers up to the first missing one, and none from there on. -/
def untilFailure {α : Type*} : List (Option α) → List (Option α)
  | [] => []
  | none :: rest => none :: rest.map fun _ => none
  | some value :: rest => some value :: untilFailure rest

theorem untilFailure_getElem? {α : Type*} {values : List (Option α)}
    {turn : Nat} {value : α} :
    (untilFailure values)[turn]? = some (some value) ↔
      values[turn]? = some (some value) ∧
        ∀ earlier < turn, values[earlier]? ≠ some none := by
  induction values generalizing turn with
  | nil => simp [untilFailure]
  | cons head values induction =>
      cases turn with
      | zero => cases head <;> simp [untilFailure]
      | succ turn =>
          cases head with
          | none =>
              constructor
              · intro found
                rw [untilFailure, List.getElem?_cons_succ] at found
                obtain ⟨_, _, same⟩ :=
                  List.mem_map.mp (List.mem_of_getElem? found)
                cases same
              · intro answered
                exact (answered.2 0 (Nat.zero_lt_succ turn) rfl).elim
          | some first =>
              rw [untilFailure, List.getElem?_cons_succ,
                List.getElem?_cons_succ, induction]
              apply and_congr_right
              intro _
              constructor
              · intro answered earlier before
                cases earlier with
                | zero => simp
                | succ earlier =>
                    exact answered earlier (Nat.lt_of_succ_lt_succ before)
              · intro answered earlier before
                exact answered (earlier + 1) (Nat.succ_lt_succ before)

section

variable (environment : Environment) (failing : Nat → Bool)

theorem answers_getElem? (first turn : Nat) (found : List RegisterRange) :
    (answers environment failing first found)[turn]? =
      found[turn]?.map fun range =>
        if failing (first + turn) then none
        else environment.readRegisters range.startAddr
          (Int32.ofNat range.count) := by
  induction found generalizing first turn with
  | nil => rfl
  | cons range rest induction =>
      cases turn with
      | zero => rfl
      | succ turn =>
          have shift : first + 1 + turn = first + (turn + 1) := by omega
          rw [answers, List.getElem?_cons_succ, List.getElem?_cons_succ,
            induction, shift]

private theorem answers_length (first : Nat) (found : List RegisterRange) :
    (answers environment failing first found).length = found.length := by
  induction found generalizing first with
  | nil => rfl
  | cons range rest induction =>
      rw [answers, List.length_cons, List.length_cons, induction]

/-- There is no context to read over. -/
def Reading.Unusable (reading : Reading) : Prop :=
  ∀ api, reading.api = .ok api → ¬api.Usable

private theorem readThrough_unusable {reading : Reading} (unusable : reading.Unusable)
    (startAddr : UInt16) (count : Nat) :
    ∃ next, readThrough environment failing reading startAddr count =
        (next, none) ∧ next.Unusable := by
  unfold readThrough
  cases connection : reading.api with
  | error fault => exact ⟨_, rfl, by intro api none; cases none⟩
  | ok api =>
      have unusable := unusable api connection
      cases pointer : api.ctx with
      | none =>
          refine ⟨⟨.ok api, reading.reads + 1⟩, by
            simp [ModbusApi.readRegisters, ModbusApi.request, pointer], ?_⟩
          intro other same
          cases same
          exact unusable
      | some handle =>
          have dead : api.contexts.use (some handle) = .error .deadUse := by
            rw [HandleTable.use, if_neg]
            intro live
            exact unusable ⟨handle, pointer, live⟩
          exact ⟨⟨.error .deadUse, reading.reads + 1⟩, by
            simp [ModbusApi.readRegisters, ModbusApi.request, pointer, dead],
            by intro other none; cases none⟩

section

variable {api : ModbusApi} (usable : api.Usable) {reads count : Nat}
  {startAddr : UInt16}

include usable

private theorem readThrough_answered {words : List UInt16}
    (answered : (if failing reads then none
      else environment.readRegisters startAddr (Int32.ofNat count)) =
        some words) :
    readThrough environment failing ⟨.ok api, reads⟩ startAddr count =
      (⟨.ok api, reads + 1⟩, some words) := by
  obtain ⟨handle, pointer, live⟩ := usable
  cases fails : failing reads with
  | true => simp [fails] at answered
  | false =>
      have answered : environment.readRegisters startAddr (Int32.ofNat count) =
          some words := by simpa [fails] using answered
      simp [readThrough, ModbusApi.readRegisters, ModbusApi.request, pointer,
        HandleTable.use_of_live live, fails, answered]

/-- A refused read closes the context. -/
theorem readThrough_refused
    (refused : (if failing reads then none
      else environment.readRegisters startAddr (Int32.ofNat count)) = none) :
    ∃ next, readThrough environment failing ⟨.ok api, reads⟩ startAddr count =
        (next, none) ∧ next.Unusable := by
  obtain ⟨handle, pointer, live⟩ := usable
  have released := HandleTable.release?_of_live live
  have answer : (if failing reads then
      { environment with readRegisters := fun _ _ => none }
      else environment).readRegisters startAddr (Int32.ofNat count) = none := by
    cases fails : failing reads with
    | true => rfl
    | false => simpa [fails] using refused
  refine ⟨_, by
    simp [readThrough, ModbusApi.readRegisters, ModbusApi.request, pointer,
      HandleTable.use_of_live live, answer, ModbusApi.destroy, released]
    rfl, ?_⟩
  intro closed same
  cases same
  rintro ⟨other, null, _⟩
  cases null

end

private theorem pollLoop_unusable (deviceId : String) (points : List DataPoint)
    (i : Nat) (reading : Reading) (unusable : reading.Unusable) :
    (pollLoop (readThrough environment failing) deviceId points i
        reading).1.map Polled.buffer =
      (ranges points i).map fun _ => none := by
  induction i using ranges.induct points generalizing reading with
  | case1 i inside range induction =>
      obtain ⟨next, read, stays⟩ := readThrough_unusable environment failing
        unusable (findContinuousRegisters points i).startAddr
        (findContinuousRegisters points i).count
      rw [pollLoop, ranges, dif_pos inside, dif_pos inside]
      simp only [read, List.map_cons]
      rw [induction next stays]
  | case2 i outside =>
      rw [pollLoop, ranges, dif_neg outside, dif_neg outside]
      rfl

/-- The buffers of a poll over a usable context: the answers of the device up
to the first refused read. -/
theorem pollLoop_usable (deviceId : String) (points : List DataPoint)
    (i : Nat) {api : ModbusApi} (usable : api.Usable) (reads : Nat) :
    (pollLoop (readThrough environment failing) deviceId points i
        ⟨.ok api, reads⟩).1.map Polled.buffer =
      untilFailure (answers environment failing reads (ranges points i)) := by
  induction i using ranges.induct points generalizing reads with
  | case1 i inside range induction =>
      rw [pollLoop, ranges, dif_pos inside, dif_pos inside]
      simp only [answers]
      cases answer : (if failing reads then none
        else environment.readRegisters
          (findContinuousRegisters points i).startAddr
          (Int32.ofNat (findContinuousRegisters points i).count)) with
      | some words =>
          simp only [readThrough_answered environment failing usable answer,
            List.map_cons, untilFailure]
          rw [induction]
      | none =>
          obtain ⟨next, read, unusable⟩ :=
            readThrough_refused environment failing usable answer
          simp only [read, List.map_cons, untilFailure]
          rw [pollLoop_unusable environment failing deviceId points _ next
            unusable,
            List.map_const', List.map_const', answers_length]
  | case2 i outside =>
      rw [pollLoop, ranges, dif_neg outside, dif_neg outside]
      rfl

private theorem wordsRead_eq_some_iff {turns : List Polled} {turn : Nat}
    {words : List UInt16} :
    wordsRead turns turn = some words ↔
      (turns.map Polled.buffer)[turn]? = some (some words) := by
  rw [wordsRead, List.getElem?_map]
  cases turns[turn]? <;> simp

theorem wordsRead_pollThrough (sorter : AddressSort)
    (config : ConfigDataModbus) (api : ModbusApi) (turn : Nat)
    (words : List UInt16) :
    wordsRead (pollThrough sorter environment failing config api) turn =
        some words ↔
      api.Usable ∧ (untilFailure (answers environment failing 0
        (ranges (sorter.sort config.dataPoints) 0)))[turn]? =
          some (some words) := by
  have polls : (pollThrough sorter environment failing config api).map
        Polled.buffer =
      (pollLoop (readThrough environment failing) config.deviceId
        (sorter.sort config.dataPoints) 0 ⟨.ok api, 0⟩).1.map
          Polled.buffer := by
    unfold pollThrough processContinuousRegisters
    split
    · next empty =>
        rw [List.isEmpty_iff.mp empty, pollLoop, dif_neg]
        · rw [(sorter.perm []).length_eq]
          exact Nat.lt_irrefl 0
    · rfl
  rw [wordsRead_eq_some_iff, polls]
  by_cases usable : api.Usable
  · rw [pollLoop_usable environment failing _ _ _ usable]
    simp [usable]
  · rw [pollLoop_unusable environment failing _ _ _ ⟨.ok api, 0⟩]
    · simp [usable, List.getElem?_replicate]
    · intro other same
      cases same
      exact usable

end

/-- Ranges outside the refused ones are read as before if and only if each of
them that comes after a refused one could not be read anyway. -/
theorem isolatesFailures_iff (sorter : AddressSort) (environment : Environment)
    (failing : Nat → Bool) (config : ConfigDataModbus) (api : ModbusApi) :
    IsolatesFailures sorter environment failing config api ↔
      (api.Usable → FailuresLast sorter environment failing config) := by
  have found := answers_getElem? environment failing 0
  have foundAlone := answers_getElem? environment (fun _ => false) 0
  simp only [Nat.zero_add] at found foundAlone
  constructor
  · intro isolates usable earlier later range inside before fails heeds
    by_contra answered
    push Not at answered
    obtain ⟨words, answer⟩ : ∃ words, (answers environment (fun _ => false) 0
        (ranges (sorter.sort config.dataPoints) 0))[later]? =
          some (some words) := by
      have notRefused := answered later (Nat.le_refl later)
      rw [foundAlone, inside] at notRefused ⊢
      simpa [Option.ne_none_iff_exists'] using notRefused
    have alone : wordsRead (pollThrough sorter environment (fun _ => false)
        config api) later = some words := by
      rw [wordsRead_pollThrough]
      refine ⟨usable, untilFailure_getElem?.mpr ⟨answer, ?_⟩⟩
      intro turn less
      exact answered turn (Nat.le_of_lt less)
    have read := isolates later words heeds alone
    rw [wordsRead_pollThrough] at read
    apply (untilFailure_getElem?.mp read.2).2 earlier before
    obtain ⟨bound, _⟩ := List.getElem?_eq_some_iff.mp inside
    rw [found, List.getElem?_eq_getElem (Nat.lt_trans before bound), fails]
    rfl
  · intro last turn words heeds alone
    rw [wordsRead_pollThrough] at alone ⊢
    obtain ⟨usable, alone⟩ := alone
    rw [untilFailure_getElem?] at alone ⊢
    obtain ⟨answered, noneBefore⟩ := alone
    have range : ∃ range, (ranges (sorter.sort config.dataPoints) 0)[turn]? =
        some range := by
      rw [foundAlone] at answered
      cases inside : (ranges (sorter.sort config.dataPoints) 0)[turn]? with
      | none =>
          rw [inside] at answered
          cases answered
      | some range => exact ⟨range, rfl⟩
    obtain ⟨range, inside⟩ := range
    refine ⟨usable, ?_, ?_⟩
    · rw [found, heeds, ← foundAlone]
      exact answered
    · intro earlier before refused
      cases fails : failing earlier with
      | true =>
          obtain ⟨refusedTurn, bound, none⟩ :=
            last usable earlier turn range inside before fails heeds
          rcases Nat.lt_or_eq_of_le bound with less | same
          · exact noneBefore refusedTurn less none
          · rw [same, answered] at none
            cases none
      | false =>
          rw [found, fails, ← foundAlone] at refused
          exact noneBefore earlier before refused

/-- Of the two ranges of a device the first one is refused; the second one is
then not read either. -/
theorem not_isolatesFailures :
    ∃ api, ModbusApi.construct tcpSettings answering = .ok api ∧
      ¬IsolatesFailures insertionSorter answering (fun turn => turn == 0)
        gappedDevice api := by
  refine ⟨_, rfl, ?_⟩
  intro isolates
  have cut : ranges (insertionSorter.sort gappedDevice.dataPoints) 0 =
      [{ startAddr := 0, count := 1, endIndex := 0 },
        { startAddr := 10, count := 1, endIndex := 1 }] := by
    have first : findContinuousRegisters
        (insertionSorter.sort gappedDevice.dataPoints) 0 =
        { startAddr := 0, count := 1, endIndex := 0 } := rfl
    have second : findContinuousRegisters
        (insertionSorter.sort gappedDevice.dataPoints) (0 + 1) =
        { startAddr := 10, count := 1, endIndex := 1 } := rfl
    rw [ranges, dif_pos (by decide)]
    simp only [first]
    rw [ranges, dif_pos (by decide)]
    simp only [second]
    rw [ranges, dif_neg (by decide)]
  have alone := isolates 1 [0] rfl
  rw [wordsRead_pollThrough, wordsRead_pollThrough, cut] at alone
  have read := alone ⟨⟨0, rfl, by decide⟩, rfl⟩
  cases read.2

end DataGateway.Modbus
