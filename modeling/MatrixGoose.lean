import MatrixGoose.Foundation.TransitionSystem
import MatrixGoose.Foundation.MultiMap
import MatrixGoose.Foundation.Traced
import MatrixGoose.Foundation.FirstMatch
import MatrixGoose.Foundation.Segments
import MatrixGoose.Foundation.Components
import MatrixGoose.Foundation.Log
import MatrixGoose.Foundation.PageChain
import MatrixGoose.Foundation.Interaction
import MatrixGoose.Foundation.Dict
import MatrixGoose.Foundation.Interleaving
import MatrixGoose.Foundation.Replica
import MatrixGoose.Foundation.Custody
import MatrixGoose.Lib.TaskSleep
import MatrixGoose.Lib.SleepRuns
import MatrixGoose.Matrix.HttpClient.RequestName
import MatrixGoose.Matrix.HttpClient.EndpointNames
import MatrixGoose.Matrix.EventHandler.Maps
import MatrixGoose.Matrix.EventHandler.Registry
import MatrixGoose.Matrix.EventHandler.StoreRuns
import MatrixGoose.Matrix.EventHandler.RawEvent
import MatrixGoose.Matrix.EventHandler.Dispatch
import MatrixGoose.Matrix.Sync.Response
import MatrixGoose.Matrix.Sync.Occurrences
import MatrixGoose.Matrix.Sync.OnlyWanted
import MatrixGoose.Matrix.Sync.DispatchContract
import MatrixGoose.Foundation.Timed
import MatrixGoose.Foundation.Pacing
import MatrixGoose.Matrix.Sync.SyncForever
import MatrixGoose.Matrix.Sync.SyncRate
import MatrixGoose.Matrix.Room.TypingNotice
import MatrixGoose.Matrix.Room.TypingFailure
import MatrixGoose.Matrix.Room.EncryptionState
import MatrixGoose.Matrix.Room.RequestLocks
import MatrixGoose.Matrix.RefreshToken
import MatrixGoose.Matrix.Account.Avatar
import MatrixGoose.Matrix.Account.IgnoreList
import MatrixGoose.Matrix.Account.DirectChats
import MatrixGoose.Matrix.ServerVersions
import MatrixGoose.Bin.Chat.RoomMessages
import MatrixGoose.Bin.Chat.SyncLoop
import MatrixGoose.Bin.Chat.Tasks
import MatrixGoose.Bin.Chat.TaskOutcomes
import MatrixGoose.Bin.Chat.Users
import MatrixGoose.Bin.Chat.Steps
import MatrixGoose.Bin.Chat.UserTable
import MatrixGoose.Bin.Chat.Cancellation
import MatrixGoose.Bin.Chat.Stopping
import MatrixGoose.Bin.Chat.Login
import MatrixGoose.Bin.Chat.SessionData
import MatrixGoose.Bin.Chat.SelectedRoom
import MatrixGoose.Bin.Chat.RunTime
import MatrixGoose.Bin.Chat.MessageHistory
import MatrixGoose.Bin.Chat.Pagination
import MatrixGoose.Matrix.HttpClient.Retry
import MatrixGoose.Matrix.HttpClient.Attempts
import MatrixGoose.Matrix.HttpClient.Session
import MatrixGoose.Scripts.GenerateRooms
import MatrixGoose.Bin.Setup
import MatrixGoose.Bin.CreateRoom
import MatrixGoose.Bin.InvitedIds
import MatrixGoose.Foundation.KeyedStore
import MatrixGoose.Foundation.Ranking
import MatrixGoose.Foundation.OrderedMultiMap
import MatrixGoose.Foundation.Numeral
import MatrixGoose.Lib.SleepContract
import MatrixGoose.Matrix.HttpClient.NamePositions
import MatrixGoose.Matrix.HttpClient.TransactionNames
import MatrixGoose.Matrix.HttpClient.ResponseHeaders
import MatrixGoose.Matrix.EventHandler.DropGuard
import MatrixGoose.Matrix.Media
import MatrixGoose.Matrix.MediaRepository
import MatrixGoose.Matrix.Account.DirectLaws
import MatrixGoose.Matrix.Room.Route
import MatrixGoose.Matrix.FailedLogin
import MatrixGoose.Scripts.GenerateUsers
import MatrixGoose.Scripts.RoomAnalysis
import MatrixGoose.Foundation.Mutex
import MatrixGoose.Foundation.Register
import MatrixGoose.Foundation.Generator
import MatrixGoose.Foundation.Csv
import MatrixGoose.Matrix.Send.Calls
import MatrixGoose.Matrix.Send.Script
import MatrixGoose.Matrix.Send.Resend
import MatrixGoose.Matrix.Send.TokenChain
import MatrixGoose.Matrix.Sync.SyncStream
import MatrixGoose.Matrix.Room.PowerLevels
import MatrixGoose.Matrix.FilterUpload
import MatrixGoose.Bin.UsersCsv
import MatrixGoose.Bin.Register
import MatrixGoose.Bin.Join
import MatrixGoose.Bin.SetupPipeline
import MatrixGoose.Matrix.Room.Attachment
import MatrixGoose.Matrix.EventHandler.LiveDispatch
import MatrixGoose.Matrix.EventHandler.LiveContract
import MatrixGoose.Matrix.EventHandler.OneShot
import MatrixGoose.Matrix.Sync.LiveResponse
import MatrixGoose.Foundation.Observable
import MatrixGoose.Matrix.Sync.SyncGap
import MatrixGoose.Matrix.Sync.GapSubscribers
import MatrixGoose.Matrix.Builder
