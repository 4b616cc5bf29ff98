import DataGateway.Foundation.Handles
import DataGateway.Foundation.Numerals
import DataGateway.Foundation.Runs
import DataGateway.Redis.Client
import DataGateway.Redis.Acknowledgement
import DataGateway.Redis.HandleValidity
import DataGateway.Foundation.IntegerTypes
import DataGateway.Redis.Getters
import DataGateway.Redis.GetterReplies
import DataGateway.Redis.RoundTrip
import DataGateway.Config.Data
import DataGateway.Foundation.Tiling
import DataGateway.Modbus.Polling
import DataGateway.Modbus.Placement
import DataGateway.Modbus.PollingLoops
import DataGateway.Config.Yaml
import DataGateway.Foundation.Ingest
import DataGateway.Config.Loader
import DataGateway.Config.LoadOutcome
import DataGateway.Config.SectionIsolation
import DataGateway.Config.LoadOrder
import DataGateway.Config.DeviceGrammar
import DataGateway.Foundation.Separator
import DataGateway.Iec61850.Nodes
import DataGateway.Foundation.Searches
import DataGateway.Foundation.Xml
import DataGateway.Iec61850.IcdParser
import DataGateway.Iec61850.IcdLookups
import DataGateway.Iec61850.References
import DataGateway.Iec61850.IcdNodes
import DataGateway.Iec61850.NodeDuplicates
import DataGateway.Foundation.Packing
import DataGateway.RedisKeys
import DataGateway.Iec104.Server
import DataGateway.Iec104.Interrogation
import DataGateway.Foundation.Semaphore
import DataGateway.Iec104.Client
import DataGateway.Foundation.Pacing
import DataGateway.Iec104.InterrogationPacing
import DataGateway.Iec104.Joining
import DataGateway.Iec104.EventLock
import DataGateway.Iec104.Activation
import DataGateway.Iec104.Restart
import DataGateway.Iec104.Monitoring
import DataGateway.Iec104.Commands
import DataGateway.Foundation.KeyedCalls
import DataGateway.Iec104.PointStore
import DataGateway.Modbus.Api
import DataGateway.Modbus.Contexts
import DataGateway.Modbus.RetryBudget
import DataGateway.Iec61850.Values
import DataGateway.Iec61850.StructureReports
import DataGateway.Iec61850.PollReleases
import DataGateway.Iec61850.ControlObjects
import DataGateway.Iec61850.Polling
import DataGateway.Iec61850.ClientManager
import DataGateway.Iec61850.InitClients
import DataGateway.Iec61850.Teardown
import DataGateway.Modbus.Coalescing
import DataGateway.Modbus.Requests
import DataGateway.Modbus.WideValues
import DataGateway.Modbus.RangeFailures
import DataGateway.Modbus.ReconnectThread
import DataGateway.Modbus.Lifetime
import DataGateway.Foundation.ReplyQueue
import DataGateway.Redis.Attribution
import DataGateway.Iec61850.Service
import DataGateway.Foundation.Directory
import DataGateway.Log.RotatingFileSink
import DataGateway.Log.Retention
import DataGateway.Log.SinkSizes
import DataGateway.Log.FailedRotation
import DataGateway.Log.LoggerInit
import DataGateway.Foundation.WriteBehind
import DataGateway.Foundation.Ring
import DataGateway.Log.CircularQ
import DataGateway.Log.Logger
import DataGateway.Log.LoggerRuns
import DataGateway.Log.LoggerProgress
import DataGateway.Log.LoggerShutdown
import DataGateway.Log.LoggerRest
import DataGateway.Modbus.AppModbus
import DataGateway.ConnectionParameters
import DataGateway.Iec104.PeriodicThread
import DataGateway.Iec104.ThreadDestruction
import DataGateway.Iec104.Sending
import DataGateway.Iec104.TestServer
import DataGateway.Iec104.ClientManger
import DataGateway.Foundation.Interleaving
import DataGateway.SharedRedis
import DataGateway.Delivery
import DataGateway.Foundation.TaskPool
import DataGateway.ThreadPool
import DataGateway.Modbus.Recovery
import DataGateway.Modbus.PoolUse
import DataGateway.Foundation.Grouping
import DataGateway.Modbus.FewestRequests
import DataGateway.Config.Descriptions
