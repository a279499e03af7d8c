import Sc2pp.Util.Run
import Sc2pp.Util.Presence
import Sc2pp.Util.Outbox
import Sc2pp.Util.Protocol
import Sc2pp.Lemmas.Echo
import Sc2pp.Lemmas.CircleDistance
import Sc2pp.Lemmas.Converters
import Sc2pp.Lemmas.Observation
import Sc2pp.Lemmas.GridUtils
import Sc2pp.Lemmas.SC2Context
import Sc2pp.Lemmas.SC2Session
import Sc2pp.Lemmas.Operations
import Sc2pp.Lemmas.SC2Client
import Sc2pp.Lemmas.Main
import Sc2pp.Lemmas.LostConnection
import Sc2pp.Lemmas.Completion
import Sc2pp.Lemmas.Game
import Sc2pp.Lemmas.Connection
import Sc2pp.Util.Greedy
import Sc2pp.Lemmas.BuildingPlacer
import Sc2pp.Lemmas.Slots
import Sc2pp.Lemmas.Pictures
import Sc2pp.Util.Loop
import Sc2pp.Util.Search
import Sc2pp.Util.Sweep
import Sc2pp.Lemmas.Wave
import Sc2pp.Lemmas.StepDistance
import Sc2pp.Lemmas.Decoding
import Sc2pp.Lemmas.Buildings
import Sc2pp.Lemmas.Minerals
import Sc2pp.Lemmas.Combinators
import Sc2pp.Lemmas.BuildPos
import Sc2pp.Lemmas.PlacementOrder
import Sc2pp.Lemmas.TechTree
import Sc2pp.Lemmas.FreshFirst
import Sc2pp.Lemmas.Tasks
import Sc2pp.Lemmas.Spots
import Sc2pp.Lemmas.Serving
import Sc2pp.Lemmas.UpdateBatch
import Sc2pp.Lemmas.Survival
import Sc2pp.Lemmas.Player
import Sc2pp.Lemmas.Orders
import Sc2pp.Lemmas.AbilityCaches
import Sc2pp.Lemmas.Dump
import Sc2pp.Lemmas.UnitRecord
import Sc2pp.Lemmas.LocalGame
import Sc2pp.Lemmas.Hosting
