import DataGateway.Foundation.WriteBehind
import DataGateway.Log.CircularQ
import DataGateway.Log.LoggerInit

/-!
# The logger under its threads

`Logger::LoggerImpl` (`common/log/logger_impl.cc`) once `Init` has made its sinks.
A synchronous logger lets the thread that logs visit the sinks; an asynchronous
one puts the message into the queue of `spdlog`'s pool, whose workers visit them.
Each sink has a mutex of its own, so that the visits of several threads
interleave sink by sink, and a line that has been written may wait in the buffer
of `stdio` for the next flush.
-/

namespace DataGateway.Log

open Foundation

/-- `Logger::severity_level`. -/
inductive Severity
  | trace
  | debug
  | info
  | warning
  | error
  | critical
  deriving DecidableEq, Inhabited

/-- The cast to `level_enum`. -/
def Severity.level : Severity → LevelEnum
  | .trace => 0
  | .debug => 1
  | .info => 2
  | .warning => 3
  | .error => 4
  | .critical => 5

/-- A message with its severity and the line that the formatter makes of it. -/
structure Record where
  severity : Severity
  line : Message
  deriving DecidableEq, Inhabited

/-- A sink or a logger of the level takes the record. -/
def Record.passes (record : Record) (level : LevelEnum) : Bool :=
  level ≤ record.severity.level

/-- The file sink and the last lines of its base file, which may still be in the
buffer; `stored` are the records that have left it. -/
structure BufferedSink where
  sink : Sink
  level : LevelEnum
  unflushed : List Record
  stored : Multiset Record

namespace BufferedSink

variable (file : BufferedSink)

def flush : BufferedSink :=
  { file with
    unflushed := []
    stored := file.stored + file.unflushed }

/-- `sink_it_`, which flushes before it asks for the size of a file that might be
full. -/
def sinkIt (record : Record) (now : Nat) : BufferedSink :=
  let before :=
    if file.sink.settings.maxSize < file.sink.currentSize + record.line.length then
      file.flush
    else file
  { before with
    sink := file.sink.sinkIt record.line now
    unflushed := before.unflushed ++ [record] }

/-- What a crash leaves when so many of the lines in the buffer have reached the
disk by then; a line that is torn counts as lost. -/
def afterCrash (reached : Nat) : Directory String Message :=
  match file.sink.directory.find? file.sink.settings.baseEntry with
  | none => file.sink.directory
  | some base =>
      file.sink.directory.put
        { base with
          lines := base.lines.take
            (base.lines.length - (file.unflushed.drop reached).length) }

end BufferedSink

structure ConsoleSink where
  level : LevelEnum
  shown : List Record

def ConsoleSink.log (console : ConsoleSink) (record : Record) : ConsoleSink :=
  if record.passes console.level then
    { console with shown := console.shown ++ [record] }
  else console

/-- `async_msg`. -/
inductive Item
  | log (record : Record)
  | flush
  | terminate
  deriving DecidableEq, Inhabited

/-- Where a thread is.  A caller of the logger is idle between its calls, a worker
waits at the queue; `posts` is the message of a call of `log`, or else the flush of
`Uinit`.  The two loops over the sinks visit the file before the console, and
remember whether the file took the record. -/
inductive Stage
  | idle
  | waits
  | posts (message : Option Record)
  | logsFile (record : Record)
  | logsConsole (record : Record) (took : Bool)
  | flushesFile (delivery : Option (Record × Bool))
  | flushesConsole (delivery : Option (Record × Bool))
  | resets
  | terminates (left : Nat)
  | joins
  | ended
  deriving DecidableEq

/-- `posted` are the records that passed the level of the logger, `handled` those
whose delivery is over, and `kept` those of them that the file took. -/
structure Logger where
  live : Bool
  isAsync : Bool
  level : LevelEnum
  flushLevel : LevelEnum
  file : Option BufferedSink
  console : Option ConsoleSink
  poolSize : Nat
  queue : CircularQ Item
  threads : List Stage
  posted : Multiset Record
  handled : Multiset Record
  kept : Multiset Record

inductive LoggerMove
  | log (thread : Nat) (record : Record)
  | uinit (thread : Nat)
  | setLogLevel (severity : Severity)
  | setLogFileLevel (severity : Severity)
  | setLogConsoleLevel (severity : Severity)
  | proceed (thread now : Nat)

/-- `logger_.reset()` while another thread is in a call of the logger. -/
inductive LoggerFault
  | loggerInUse
  deriving DecidableEq

def SinkPtr.file? : SinkPtr → Option BufferedSink
  | .stdoutColor _ => none
  | .customRotatingFile sink level =>
      some { sink := sink, level := level, unflushed := [], stored := 0 }

def SinkPtr.console? : SinkPtr → Option ConsoleSink
  | .stdoutColor level => some { level := level, shown := [] }
  | .customRotatingFile _ _ => none

/-- What a worker does with an item. -/
def Item.stage : Item → Stage
  | .log record => .logsFile record
  | .flush => .flushesFile none
  | .terminate => .ended

/-- The calls of a logger that are under way when its memory goes. -/
def Stage.inCall (isAsync : Bool) : Stage → Bool
  | .idle | .waits | .ended => false
  | .posts _ | .resets | .terminates _ | .joins => true
  | .logsFile _ | .logsConsole _ _ | .flushesFile _ | .flushesConsole _ => !isAsync

namespace Logger

/-- The logger of `Init`, with `flush_on` and the size of the queue as the setters
have left them; `set_level(trace)` lets every level pass. -/
def initialised (result : Initialised) (flushLevel : LevelEnum)
    (bufferSize callers : Nat) : Logger :=
  { live := true
    isAsync := result.threads.isSome
    level := 0
    flushLevel := flushLevel
    file := result.sinks.findSome? SinkPtr.file?
    console := result.sinks.findSome? SinkPtr.console?
    poolSize := result.threads.getD 0
    queue := .construct bufferSize
    threads := List.replicate callers .idle ++
      List.replicate (result.threads.getD 0) .waits
    posted := 0
    handled := 0
    kept := 0 }

section Operations

variable (logger : Logger) (thread : Nat)

def setStage (stage : Stage) : Logger :=
  { logger with threads := logger.threads.set thread stage }

/-- Where a thread goes from its loops over the sinks. -/
def rest : Stage := if logger.isAsync then .waits else .idle

def finish (record : Record) (took : Bool) : Logger :=
  { logger.setStage thread logger.rest with
    handled := record ::ₘ logger.handled
    kept := if took then record ::ₘ logger.kept else logger.kept }

/-- `enqueue`, which blocks while the queue is full. -/
def enqueue (item : Item) (next : Stage) : Logger :=
  if logger.queue.full then logger
  else { logger.setStage thread next with queue := logger.queue.pushBack item }

/-- `process_next_msg_` up to the loop over the sinks; `dequeue` blocks while the
queue is empty. -/
def dequeue : Logger :=
  if stored : logger.queue.empty = false then
    { logger.setStage thread (logger.queue.front stored).stage with
      queue := logger.queue.popFront stored }
  else logger

/-- `sink->log(msg)` of the file sink if it should log. -/
def logFile (record : Record) (now : Nat) : Logger :=
  match logger.file with
  | none => logger.setStage thread (.logsConsole record false)
  | some file =>
      if record.passes file.level then
        { logger.setStage thread (.logsConsole record true) with
          file := some (file.sinkIt record now) }
      else logger.setStage thread (.logsConsole record false)

/-- `sink->log(msg)` of the console, then `should_flush_`; no record is `off`. -/
def logConsole (record : Record) (took : Bool) : Logger :=
  let shown : Logger :=
    { logger with console := logger.console.map (·.log record) }
  if record.passes logger.flushLevel then
    shown.setStage thread (.flushesFile (some (record, took)))
  else shown.finish thread record took

def flushFile (delivery : Option (Record × Bool)) : Logger :=
  { logger.setStage thread (.flushesConsole delivery) with
    file := logger.file.map BufferedSink.flush }

/-- The flush of the console ends that of a record, of a worker, or of `Uinit`. -/
def flushConsole : Option (Record × Bool) → Logger
  | some (record, took) => logger.finish thread record took
  | none => logger.setStage thread (if logger.isAsync then .waits else .resets)

/-- `logger_.reset()` and `spdlog::shutdown()` up to the destructor of the pool. -/
def reset : Except LoggerFault Logger :=
  if logger.threads.countP (Stage.inCall logger.isAsync) = 1 then
    .ok { logger.setStage thread
            (if logger.isAsync then .terminates logger.poolSize else .idle) with
          live := false }
  else .error .loggerInUse

/-- A thread goes on by one access to the queue or to a sink. -/
def proceed (now : Nat) : Except LoggerFault Logger :=
  match logger.threads[thread]? with
  | none | some .idle | some .ended => .ok logger
  | some .waits => .ok (logger.dequeue thread)
  | some (.posts (some record)) => .ok (logger.enqueue thread (.log record) .idle)
  | some (.posts none) => .ok (logger.enqueue thread .flush .resets)
  | some (.logsFile record) => .ok (logger.logFile thread record now)
  | some (.logsConsole record took) => .ok (logger.logConsole thread record took)
  | some (.flushesFile delivery) => .ok (logger.flushFile thread delivery)
  | some (.flushesConsole delivery) => .ok (logger.flushConsole thread delivery)
  | some .resets => logger.reset thread
  | some (.terminates 0) => .ok (logger.setStage thread .joins)
  | some (.terminates (left + 1)) =>
      .ok (logger.enqueue thread .terminate (.terminates left))
  | some .joins =>
      .ok (if logger.threads.count .ended = logger.poolSize then
        logger.setStage thread .idle
      else logger)

/-- `log`, which does nothing without a logger. -/
def log (record : Record) : Logger :=
  if logger.live && record.passes logger.level then
    { logger.setStage thread
        (if logger.isAsync then .posts (some record) else .logsFile record) with
      posted := record ::ₘ logger.posted }
  else logger

/-- `Uinit`, up to the flush that it begins with; a second one finds nothing. -/
def uinit : Logger :=
  if logger.live then
    logger.setStage thread
      (if logger.isAsync then .posts none else .flushesFile none)
  else logger

/-- A caller begins one call at a time. -/
def step : LoggerMove → Except LoggerFault (Logger × Unit)
  | .log thread record =>
      .ok (if logger.threads[thread]? = some .idle then logger.log thread record
        else logger, ())
  | .uinit thread =>
      .ok (if logger.threads[thread]? = some .idle then logger.uinit thread
        else logger, ())
  | .setLogLevel severity =>
      .ok (if logger.live then { logger with level := severity.level } else logger, ())
  | .setLogFileLevel severity =>
      .ok ({ logger with
        file := logger.file.map ({ · with level := severity.level }) }, ())
  | .setLogConsoleLevel severity =>
      .ok ({ logger with
        console := logger.console.map ({ · with level := severity.level }) }, ())
  | .proceed thread now => (logger.proceed thread now).map (·, ())

end Operations

end Logger

end DataGateway.Log
