import DataGateway.Foundation.IntegerTypes
import DataGateway.Log.Retention

/-!
# The initialisation of the logger

`Logger::LoggerImpl::Init` (`common/log/logger_impl.cc`) with the checks of
those that it calls: the constructor of the file sink, that of `spdlog`'s thread
pool, and the registry of loggers.  The size of a log file is computed in `int`
and then widened; the number of threads is a quarter of the machine's.  The pool
makes its queue before it looks at that number, and the size of the queue is a
member that the constructor of `LoggerImpl` does not initialise.
-/

namespace DataGateway.Log

open Foundation

/-- `level_enum`, to which `Init` casts its `int`. -/
abbrev LevelEnum := Int32

inductive LoggerType
  | both
  | console
  | file

/-- The cases of `switch (type)`; every other value comes to `default`. -/
def LoggerType.ofInt (type : Int32) : Option LoggerType :=
  if type = 0 then some .both
  else if type = 1 then some .console
  else if type = 2 then some .file
  else none

structure InitArguments where
  fileName : String
  type : Int32
  level : Int32
  maxFileSize : Int32
  maxBackupIndex : Int32
  isAsync : Bool

/-- What `Init` finds in the machine and in the process.  `logBufferSize` is what
`setLogBufferSize` has stored, or else anything; `maxCells` is the `max_size` of the
queue's vector, and `allocates` whether there is memory for so many cells. -/
structure Machine where
  hardwareThreads : Nat
  logBufferSize : UInt64
  maxCells : Nat
  allocates : Nat → Bool
  getenv : String → Option String
  loggers : List String
  now : Nat
  directory : Directory String Message
  processName : String
  putTime : Nat → String
  sorter : WriteTimeSort

inductive SinkPtr
  | stdoutColor (level : LevelEnum)
  | customRotatingFile (sink : Sink) (level : LevelEnum)

/-- The logger that `Init` makes, the threads of its pool if it is asynchronous,
and the names in the registry. -/
structure Initialised where
  sinks : List SinkPtr
  threads : Option Nat
  loggers : List String

def levelStringViews : List String :=
  ["trace", "debug", "info", "warning", "error", "critical", "off"]

/-- `spdlog::level::from_str`. -/
def fromStr (name : String) : LevelEnum :=
  match levelStringViews.idxOf? name with
  | some index => Int32.ofNat index
  | none =>
      if name = "warn" then 3
      else if name = "err" then 4
      else 6

/-- `std::size_t max_file_size = 1024 * 1024 * maxFileSize`: the product of
`int`s wraps where it overflows. -/
def maxFileSizeBytes (maxFileSize : Int32) : UInt64 :=
  uint64.ofInt (int32.toInt (1024 * 1024 * maxFileSize))

/-- `std::thread::hardware_concurrency() / 4`. -/
def poolThreads (hardwareThreads : Nat) : Nat := hardwareThreads / 4

/-- `circular_q::circular_q`: one cell more than items, in `size_t`. -/
def queueCells (qMaxItems : UInt64) : Nat := (qMaxItems + 1).toNat

/-- `std::vector<T> v_(max_items_)`; an empty vector asks for no memory. -/
def createQueue (machine : Machine) (qMaxItems : UInt64) : Except String Nat :=
  let cells := queueCells qMaxItems
  if machine.maxCells < cells then
    .error "cannot create std::vector larger than max_size()"
  else if 0 < cells ∧ machine.allocates cells = false then
    .error "std::bad_alloc"
  else .ok cells

/-- `thread_pool::thread_pool`, up to the start of the threads. -/
def initThreadPool (machine : Machine) (qMaxItems : UInt64) (threadsN : Nat) :
    Except String Nat := do
  let _ ← createQueue machine qMaxItems
  if threadsN = 0 ∨ 1000 < threadsN then
    .error ("spdlog::thread_pool(): invalid threads_n param (valid " ++
      "range is 1-1000)")
  else .ok threadsN

/-- `registry::register_logger_`. -/
def registerLogger (loggers : List String) (name : String) :
    Except String (List String) :=
  if name ∈ loggers then
    .error ("logger with name '" ++ name ++ "' already exists")
  else .ok (name :: loggers)

section

variable (machine : Machine) (arguments : InitArguments)

def getLogLevelFromEnv (envVar : String) (defaultLevel : LevelEnum) :
    LevelEnum :=
  match machine.getenv envVar with
  | none => defaultLevel
  | some levelStr => fromStr levelStr

/-- What `Init` passes to the file sink. -/
def sinkSettings : Settings :=
  { baseFilename := arguments.fileName
    maxSize := (maxFileSizeBytes arguments.maxFileSize).toNat
    maxFiles := (uint64.ofInt (int32.toInt arguments.maxBackupIndex)).toNat
    processName := machine.processName
    putTime := machine.putTime
    sorter := machine.sorter }

def fileSink : Except String (Sink × Option LogFile) :=
  Sink.construct (sinkSettings machine arguments) false machine.now
    machine.directory

def createSinks : Except String (List SinkPtr) :=
  let consoleLevel := getLogLevelFromEnv machine "LOG_CONSOLE_LEVEL"
    arguments.level
  let fileLevel := getLogLevelFromEnv machine "LOG_FILE_LEVEL" arguments.level
  match LoggerType.ofInt arguments.type with
  | some .both => do
      let (sink, _) ← fileSink machine arguments
      return [.customRotatingFile sink fileLevel, .stdoutColor consoleLevel]
  | some .console => .ok [.stdoutColor consoleLevel]
  | some .file => do
      let (sink, _) ← fileSink machine arguments
      return [.customRotatingFile sink fileLevel]
  | none => .ok [.stdoutColor consoleLevel]

/-- The pool of an asynchronous logger. -/
def createPool : Except String (Option Nat) :=
  if arguments.isAsync then do
    let threads ← initThreadPool machine machine.logBufferSize
      (poolThreads machine.hardwareThreads)
    return some threads
  else .ok none

/-- `Init`; it returns `false` where it has no result. -/
def init : Except String (Option Initialised) := do
  let sinks ← createSinks machine arguments
  if sinks.isEmpty then return none
  else do
    let threads ← createPool machine arguments
    let loggers ← registerLogger machine.loggers "Logger"
    return some { sinks := sinks, threads := threads, loggers := loggers }

/-- The types of logger that have a file sink. -/
def WritesFile (type : Int32) : Prop :=
  LoggerType.ofInt type = some .both ∨ LoggerType.ofInt type = some .file

/-- The vector of the queue is not too long, and there is memory for it. -/
def QueueFits : Prop :=
  queueCells machine.logBufferSize ≤ machine.maxCells ∧
    (0 < queueCells machine.logBufferSize →
      machine.allocates (queueCells machine.logBufferSize) = true)

/-- The size of the file sink is computed without overflow, the pool gets a
number of threads that it accepts, and `Init` returns `true`. -/
structure HandsValidArguments : Prop where
  size : WritesFile arguments.type →
    int32.InRange (1048576 * int32.toInt arguments.maxFileSize) ∧
      ((sinkSettings machine arguments).maxSize : Int) =
        1048576 * int32.toInt arguments.maxFileSize
  threads : arguments.isAsync = true →
    1 ≤ poolThreads machine.hardwareThreads ∧
      poolThreads machine.hardwareThreads ≤ 1000
  returns : ∃ initialised, init machine arguments = .ok (some initialised)

end

section

variable {machine : Machine} {arguments : InitArguments}

theorem product_eq (maxFileSize : Int32) :
    1024 * 1024 * maxFileSize =
      int32.ofInt (1048576 * int32.toInt maxFileSize) := by
  have factors : (1024 * 1024 : Int32) = Int32.ofInt 1048576 := by decide
  simp only [int32, Int32.ofInt_mul, Int32.ofInt_toInt, factors]

theorem maxFileSizeBytes_of_inRange {maxFileSize : Int32}
    (positive : 1 ≤ int32.toInt maxFileSize)
    (inside : int32.InRange (1048576 * int32.toInt maxFileSize)) :
    ((maxFileSizeBytes maxFileSize).toNat : Int) =
      1048576 * int32.toInt maxFileSize := by
  have product := (int32.toInt_ofInt_iff _).mpr inside
  have wide : uint64.InRange (1048576 * int32.toInt maxFileSize) := by
    obtain ⟨_, below⟩ := inside
    constructor
    · simp only [uint64]
      omega
    · simp only [uint64, int32] at below ⊢
      omega
  unfold maxFileSizeBytes
  rw [product_eq, product]
  exact (uint64.toInt_ofInt_iff _).mpr wide

private theorem inRange_iff {maxFileSize : Int32}
    (positive : 1 ≤ int32.toInt maxFileSize) :
    int32.InRange (1048576 * int32.toInt maxFileSize) ↔
      int32.toInt maxFileSize ≤ 2047 := by
  unfold IntegerType.InRange
  simp only [int32] at positive ⊢
  omega

private theorem fileSink_returns_iff :
    (∃ result, fileSink machine arguments = .ok result) ↔
      (sinkSettings machine arguments).maxSize ≠ 0 ∧
        (sinkSettings machine arguments).maxFiles ≤ 200000 := by
  unfold fileSink Sink.construct
  by_cases zero : (sinkSettings machine arguments).maxSize = 0
  · simp [zero]
  · by_cases many : 200000 < (sinkSettings machine arguments).maxFiles
    · simp [zero, many]
    · simp [zero, many, Nat.not_lt.mp many]

/-- The sinks are made unless a file sink is wanted and refuses. -/
theorem createSinks_returns_iff :
    (∃ sinks, createSinks machine arguments = .ok sinks) ↔
      (WritesFile arguments.type →
        ∃ result, fileSink machine arguments = .ok result) := by
  unfold createSinks WritesFile
  cases LoggerType.ofInt arguments.type with
  | none => simp
  | some type =>
      cases type <;> cases fileSink machine arguments <;>
        simp [bind, Except.bind, pure, Except.pure]

private theorem createSinks_ne_nil {sinks : List SinkPtr}
    (created : createSinks machine arguments = .ok sinks) :
    sinks.isEmpty = false := by
  unfold createSinks at created
  cases which : LoggerType.ofInt arguments.type with
  | none =>
      rw [which] at created
      cases created
      rfl
  | some type =>
      rw [which] at created
      cases opened : fileSink machine arguments <;> cases type <;>
        simp only [opened, bind, Except.bind, pure, Except.pure] at created <;>
        cases created <;> rfl

private theorem createQueue_returns_iff :
    (∃ cells, createQueue machine machine.logBufferSize = .ok cells) ↔
      QueueFits machine := by
  unfold createQueue QueueFits
  by_cases long : machine.maxCells < queueCells machine.logBufferSize
  · simp [long]
  · by_cases refused : 0 < queueCells machine.logBufferSize ∧
        machine.allocates (queueCells machine.logBufferSize) = false
    · simp [long, refused]
    · rw [if_neg long, if_neg refused]
      simp only [not_and, Bool.not_eq_false] at refused
      exact iff_of_true ⟨_, rfl⟩ ⟨Nat.not_lt.mp long, refused⟩

theorem pos_of_initThreadPool {qMaxItems : UInt64} {threadsN workers : Nat}
    (made : initThreadPool machine qMaxItems threadsN = .ok workers) :
    0 < workers := by
  unfold initThreadPool at made
  cases queue : createQueue machine qMaxItems with
  | error message =>
      rw [queue] at made
      cases made
  | ok cells =>
      simp only [queue, bind, Except.bind] at made
      split at made
      · cases made
      · next accepted =>
          cases made
          omega

private theorem createPool_returns_iff :
    (∃ threads, createPool machine arguments = .ok threads) ↔
      (arguments.isAsync = true →
        QueueFits machine ∧ 1 ≤ poolThreads machine.hardwareThreads ∧
          poolThreads machine.hardwareThreads ≤ 1000) := by
  rw [← createQueue_returns_iff]
  unfold createPool initThreadPool
  cases arguments.isAsync with
  | false => simp
  | true =>
      cases createQueue machine machine.logBufferSize with
      | error message => simp [bind, Except.bind]
      | ok cells =>
          by_cases refused : poolThreads machine.hardwareThreads = 0 ∨
              1000 < poolThreads machine.hardwareThreads
          · simp [refused, bind, Except.bind]
            omega
          · simp [refused, bind, Except.bind, pure, Except.pure]
            omega

/-- `Init` returns `true` when each of the three that it calls returns. -/
theorem init_returns_iff :
    (∃ initialised, init machine arguments = .ok (some initialised)) ↔
      (∃ sinks, createSinks machine arguments = .ok sinks) ∧
        (∃ threads, createPool machine arguments = .ok threads) ∧
        "Logger" ∉ machine.loggers := by
  unfold init
  cases created : createSinks machine arguments with
  | error message => simp [bind, Except.bind]
  | ok sinks =>
      have some := createSinks_ne_nil created
      cases createPool machine arguments with
      | error message => simp [some, bind, Except.bind]
      | ok threads =>
          by_cases known : "Logger" ∈ machine.loggers
          · simp [some, known, registerLogger, bind, Except.bind]
          · simp [some, known, registerLogger, bind, Except.bind, pure,
              Except.pure]

private theorem poolThreads_accepted_iff (hardwareThreads : Nat) :
    (1 ≤ poolThreads hardwareThreads ∧ poolThreads hardwareThreads ≤ 1000) ↔
      4 ≤ hardwareThreads ∧ hardwareThreads < 4004 := by
  unfold poolThreads
  omega

private theorem sinkSettings_maxFiles (machine : Machine)
    (nonnegative : 0 ≤ int32.toInt arguments.maxBackupIndex) :
    ((sinkSettings machine arguments).maxFiles : Int) =
      int32.toInt arguments.maxBackupIndex := by
  have below := (int32.bounds arguments.maxBackupIndex).2
  have wide : uint64.InRange (int32.toInt arguments.maxBackupIndex) := by
    constructor
    · exact nonnegative
    · simp only [uint64, int32] at below ⊢
      omega
  exact (uint64.toInt_ofInt_iff _).mpr wide

end

/-- For every size from one megabyte on and every number of backups allowed,
`Init` passes on valid arguments and returns if and only if the size of a file
sink is below two gigabytes, the pool of an asynchronous logger has the quarter
of a number of threads from 4 to 4003 and room for its queue, and no logger is
registered yet. -/
theorem handsValidArguments_iff (machine : Machine) (arguments : InitArguments)
    (positive : 1 ≤ int32.toInt arguments.maxFileSize)
    (backups : 0 ≤ int32.toInt arguments.maxBackupIndex ∧
      int32.toInt arguments.maxBackupIndex ≤ 200000) :
    HandsValidArguments machine arguments ↔
      (WritesFile arguments.type →
          int32.toInt arguments.maxFileSize ≤ 2047) ∧
        (arguments.isAsync = true →
          QueueFits machine ∧
            4 ≤ machine.hardwareThreads ∧ machine.hardwareThreads < 4004) ∧
        "Logger" ∉ machine.loggers := by
  constructor
  · intro valid
    obtain ⟨_, pool, unknown⟩ := init_returns_iff.mp valid.returns
    refine ⟨?_, ?_, unknown⟩
    · intro writes
      exact (inRange_iff positive).mp (valid.size writes).1
    · intro isAsync
      exact ⟨(createPool_returns_iff.mp pool isAsync).1,
        (poolThreads_accepted_iff _).mp (valid.threads isAsync)⟩
  · intro condition
    obtain ⟨small, pool, unknown⟩ := condition
    have size : WritesFile arguments.type →
        int32.InRange (1048576 * int32.toInt arguments.maxFileSize) ∧
          ((sinkSettings machine arguments).maxSize : Int) =
            1048576 * int32.toInt arguments.maxFileSize := by
      intro writes
      have inside := (inRange_iff positive).mpr (small writes)
      exact ⟨inside, maxFileSizeBytes_of_inRange positive inside⟩
    have threads : arguments.isAsync = true →
        1 ≤ poolThreads machine.hardwareThreads ∧
          poolThreads machine.hardwareThreads ≤ 1000 := by
      intro isAsync
      exact (poolThreads_accepted_iff _).mpr (pool isAsync).2
    refine ⟨size, threads, init_returns_iff.mpr ⟨?_, ?_, unknown⟩⟩
    · apply createSinks_returns_iff.mpr
      intro writes
      have exact := (size writes).2
      have files := sinkSettings_maxFiles machine backups.1
      apply fileSink_returns_iff.mpr
      omega
    · apply createPool_returns_iff.mpr
      intro isAsync
      exact ⟨(pool isAsync).1, threads isAsync⟩

/-- A machine on which nothing has been logged yet, with room for a queue of less
than a million messages. -/
def freshMachine (hardwareThreads : Nat) (logBufferSize : UInt64) : Machine :=
  { hardwareThreads := hardwareThreads
    logBufferSize := logBufferSize
    maxCells := 20000000000000000
    allocates := (· < 1000000)
    getenv := fun _ => none
    loggers := []
    now := 0
    directory := ⟨[], List.nodup_nil⟩
    processName := "gateway"
    putTime := Settings.putTimeOfDay
    sorter := Sink.insertionSorter }

/-- A logger for the file and the console, asynchronous. -/
def bothArguments (maxFileSize : Int32) : InitArguments :=
  { fileName := "log/myapp.log"
    type := 0
    level := 2
    maxFileSize := maxFileSize
    maxBackupIndex := 5
    isAsync := true }

theorem handsValidArguments_usual :
    HandsValidArguments (freshMachine 16 8192) (bothArguments 60) := by
  apply (handsValidArguments_iff (freshMachine 16 8192) (bothArguments 60)
    (by decide) (by decide)).mpr
  refine ⟨?_, ?_, ?_⟩
  · intro _
    decide
  · intro _
    exact ⟨⟨by decide, fun _ => by decide⟩, by decide⟩
  · decide

/-- Two hardware threads leave the pool none, 4096 megabytes leave the sink a size
of zero, and a size of the queue that happened to be in the memory is too much;
`Init` throws what its helpers throw. -/
theorem not_handsValidArguments_twoThreads :
    init (freshMachine 2 8192) (bothArguments 60) =
        .error ("spdlog::thread_pool(): invalid threads_n param (valid " ++
          "range is 1-1000)") ∧
      ¬HandsValidArguments (freshMachine 2 8192) (bothArguments 60) ∧
      init (freshMachine 16 8192) (bothArguments 4096) =
        .error "rotating sink constructor: max_size arg cannot be zero" ∧
      ¬HandsValidArguments (freshMachine 16 8192) (bothArguments 4096) ∧
      init (freshMachine 16 94000000000000) (bothArguments 60) =
        .error "std::bad_alloc" ∧
      ¬HandsValidArguments (freshMachine 16 94000000000000)
        (bothArguments 60) := by
  refine ⟨rfl, ?_, rfl, ?_, rfl, ?_⟩
  · intro valid
    have threads := valid.threads rfl
    revert threads
    decide
  · intro valid
    have size := (valid.size (Or.inl rfl)).2
    revert size
    decide
  · intro valid
    obtain ⟨initialised, returned⟩ := valid.returns
    cases returned

end DataGateway.Log
