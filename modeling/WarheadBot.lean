import WarheadBot.GuardedRuns
import WarheadBot.Parties
import WarheadBot.CheckRoles
import WarheadBot.CheckRolesConfirm
import WarheadBot.DBUpdaterPopulate
import WarheadBot.UpdatesTable
import WarheadBot.UpdateFetcher
import WarheadBot.UpdateFetcherLoop
import WarheadBot.UpdateFetcherRows
import WarheadBot.UpdateFetcherRecords
import WarheadBot.UpdateFetcherHistory
import WarheadBot.UpdateFetcherCleanup
import WarheadBot.UpdateFetcherDecisions
import WarheadBot.UpdateFetcherStates
import WarheadBot.UpdateFetcherDirectories
import WarheadBot.UpdateFetcherOrders
import WarheadBot.MySQLConnection
import WarheadBot.MySQLConnectionStatements
import WarheadBot.MySQLTransaction
import WarheadBot.MySQLTransactionAtomic
import WarheadBot.AsyncQueue
import WarheadBot.AsyncQueueTransitions
import WarheadBot.AsyncQueueAccounting
import WarheadBot.AsyncConnectionReady
import WarheadBot.SyncPool
import WarheadBot.SyncPoolCleanup
import WarheadBot.CheckRolesHistory
import WarheadBot.CheckRolesDelete
import WarheadBot.GuildPlayers
import WarheadBot.GuildPlayersUnique
import WarheadBot.GuildGetPlayers
import WarheadBot.PrefixCode
import WarheadBot.Utf8
import WarheadBot.LetterCase
import WarheadBot.PlayerNames
import WarheadBot.GuildPlayersNames
import WarheadBot.KeyedEntries
import WarheadBot.Config
import WarheadBot.ConfigLines
import WarheadBot.ConfigLoad
import WarheadBot.QueryCallback
import WarheadBot.QueryCallbackChain
import WarheadBot.QueryCallbackMixed
import WarheadBot.AsyncCallbackProcessor
import WarheadBot.AsyncCallbackRegistration
import WarheadBot.OrderedQueue
import WarheadBot.TaskScheduler
import WarheadBot.TaskSchedulerQueue
import WarheadBot.TaskSchedulerAsync
import WarheadBot.TaskSchedulerUpdate
import WarheadBot.Iteration
import WarheadBot.TransactionTask
import WarheadBot.TransactionTaskRetries
import WarheadBot.MySQLConnectionRecovery
import WarheadBot.MySQLConnectionRetry
import WarheadBot.DatabaseWorkerPoolTasks
import WarheadBot.Field
import WarheadBot.FieldRecursion
import WarheadBot.FieldProtocols
import WarheadBot.DatabaseWorkerPoolOpen
import WarheadBot.DatabaseWorkerPoolConnections
import WarheadBot.MySQLConnectionInfo
import WarheadBot.DBUpdaterApplyFile
import WarheadBot.PreparedStatement
import WarheadBot.PreparedStatementSubmission
import WarheadBot.PreparedStatementChecks
import WarheadBot.LastSeparator
import WarheadBot.Log
import WarheadBot.LogLookup
import WarheadBot.LogLevels
import WarheadBot.CalendarTime
import WarheadBot.LogChannel
import WarheadBot.LogChannelPattern
import WarheadBot.LogChannelDocumented
import WarheadBot.FileChannel
import WarheadBot.FileChannelCleanup
import WarheadBot.FileChannelDates
import WarheadBot.FileChannelNames
import WarheadBot.FileChannelOptions
import WarheadBot.ByteBuffer
import WarheadBot.PreparedResultSetCells
import WarheadBot.ResultSet
import WarheadBot.ResultSetVisits
import WarheadBot.QueryHolder
import WarheadBot.QueryHolderExecution
import WarheadBot.QueryHolderResults
import WarheadBot.TextPositions
import WarheadBot.Tokenize
import WarheadBot.QueryString
import WarheadBot.DiscordEmbedFields
import WarheadBot.SignedLoop
import WarheadBot.HexStrings
import WarheadBot.CheckedOutput
import WarheadBot.Utf8toWStr
import WarheadBot.PCQueue
import WarheadBot.PCQueueWakeups
import WarheadBot.PCQueueAccounting
import WarheadBot.PCQueueDrains
import WarheadBot.PCQueueShutdown
import WarheadBot.PCQueueRefines
import WarheadBot.DatabaseWorkerPoolRounds
import WarheadBot.DatabaseMgr
import WarheadBot.DatabaseMgrLoad
import WarheadBot.ConfigOptions
import WarheadBot.LogConfigured
import WarheadBot.LogDelivery
import WarheadBot.LogDescribed
import WarheadBot.UpdateFetcherConverges
import WarheadBot.UpdateFetcherListing
import WarheadBot.UpdateFetcherIncluded
import WarheadBot.CommandAnswers
import WarheadBot.LittleEndian
import WarheadBot.KeyAgreement
import WarheadBot.SRP6
import WarheadBot.SRP6Client
import WarheadBot.OwnedMemory
import WarheadBot.PreparedStatementBinding
import WarheadBot.AppendChain
import WarheadBot.MPSCQueueIntrusive
import WarheadBot.MPSCQueueNonIntrusive
import WarheadBot.DBUpdaterAgreement
