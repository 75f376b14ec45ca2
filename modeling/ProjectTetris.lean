import ProjectTetris.Client.SameGame
import ProjectTetris.Net.Receiving
import ProjectTetris.Client.Delivery
import ProjectTetris.Rooms.FreshStart
import ProjectTetris.Rooms.PieceSupply
import ProjectTetris.Rooms.Eliminated
import ProjectTetris.Client.RoomKnowledge
import ProjectTetris.Threads.RoomShutdown
import ProjectTetris.Threads.RegistryCoherence
import ProjectTetris.Threads.RoomCreation
import ProjectTetris.Threads.TasksOnce
import ProjectTetris.Threads.RoomClock
import ProjectTetris.Threads.RoomListing
import ProjectTetris.Net.InsidePacket
import ProjectTetris.Database.BestScore
import ProjectTetris.Database.RankingAgrees
import ProjectTetris.Database.FriendTransactions
import ProjectTetris.Client.GameOverLast
import ProjectTetris.Client.ScreenAgreement
import ProjectTetris.Client.LineClear
import ProjectTetris.Client.LandingPiece
import ProjectTetris.Game.GarbageLines
import ProjectTetris.Rooms.Gravity
import ProjectTetris.Rooms.Broadcast
import ProjectTetris.Rooms.Attacks
import ProjectTetris.Rooms.ArrivalOrder
import ProjectTetris.Rooms.OneGame
import ProjectTetris.Rooms.TickFits
import ProjectTetris.Net.ListSenders
import ProjectTetris.Threads.LobbySession
import ProjectTetris.Threads.SessionSlot
import ProjectTetris.Threads.SlotReuse
import ProjectTetris.Threads.OneLogin
import ProjectTetris.Net.SendBuffers
import ProjectTetris.Client.GameOverAnimation
import ProjectTetris.Client.PacketBuilder
import ProjectTetris.Client.Registration
import ProjectTetris.Stress.TestManager
import ProjectTetris.Stress.Latencies
import ProjectTetris.Game.TaskRange
import ProjectTetris.Net.GamePackets
import ProjectTetris.Client.Narrowing
import ProjectTetris.Threads.DBWakeups
import ProjectTetris.Threads.DBThreadManager
import ProjectTetris.Threads.LobbyPhaseProtocol
import ProjectTetris.Threads.LobbyWakeups
import ProjectTetris.Threads.TimerThread
import ProjectTetris.Client.SignUp
import ProjectTetris.Database.MatchRecords
import ProjectTetris.Database.FriendNotices
import ProjectTetris.Client.TetrisController
