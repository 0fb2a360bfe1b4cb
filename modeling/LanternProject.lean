import LanternProject.Config.Lookups
import LanternProject.Connection.Attempts
import LanternProject.Connection.Notices
import LanternProject.Connection.Recovery
import LanternProject.GameMode.PawnType
import LanternProject.Lantern.Brackets
import LanternProject.Lantern.BulkData
import LanternProject.Lantern.Following
import LanternProject.Lantern.Graph
import LanternProject.Lantern.LoadPlaces
import LanternProject.Lantern.Neighbors
import LanternProject.Lantern.Restored
import LanternProject.Lantern.Retained
import LanternProject.Lantern.Saved
import LanternProject.Lantern.SavedResidue
import LanternProject.Log.Handle
import LanternProject.Log.Retention
import LanternProject.Mqtt.ExactlyOnce
import LanternProject.Mqtt.Keepalive
import LanternProject.Mqtt.MessageLists
import LanternProject.Mqtt.Transport
import LanternProject.Pipeline.Acceptance
import LanternProject.Pipeline.Callback
import LanternProject.Pipeline.DataURL
import LanternProject.Pipeline.Exclusive
import LanternProject.Pipeline.Reopening
import LanternProject.Pipeline.Responses
import LanternProject.Pipeline.Screenshot
import LanternProject.Pipeline.ScreenshotPath
import LanternProject.Pipeline.SpawnRate
import LanternProject.Save.Restarts
import LanternProject.Widget.Freshness
import LanternProject.Widget.Layout
