import Drcpd.Foundation.Run
import Drcpd.Foundation.Fuel
import Drcpd.Foundation.Sublist
import Drcpd.Player.QueueRuns
import Drcpd.Player.DataRuns
import Drcpd.Player.MirrorRuns
import Drcpd.Rnf.CallRuns
import Drcpd.Dcp.QueueRuns
import Drcpd.Dcp.SerializeRuns
import Drcpd.Lists.EnterListRuns
import Drcpd.Lists.HintRuns
import Drcpd.Lists.CacheRuns
import Drcpd.Crawler.IfaceRuns
import Drcpd.Crawler.StartLists
import Drcpd.Crawler.DepthRuns
import Drcpd.Player.SkipRuns
import Drcpd.Busy.Runs
import Drcpd.DBus.AsyncBusyRuns
import Drcpd.Browser.GetListIdRuns
import Drcpd.Crawler.InvalidateRuns
import Drcpd.Browser.ContextJumpRuns
import Drcpd.Browser.PendingCookies
import Drcpd.Player.Retry
import Drcpd.Player.Dropped
import Drcpd.Player.Replay
import Drcpd.Ui.EventQueue
import Drcpd.Search.BinarySearch
import Drcpd.Search.BinarySearchEnds
import Drcpd.Foundation.Lexicographic
import Drcpd.Search.BinarySearchSorted
import Drcpd.Lists.ViewportUpdate
import Drcpd.Foundation.Positions
import Drcpd.Lists.Nav
import Drcpd.Lists.NavRuns
import Drcpd.Foundation.Ancestors
import Drcpd.Browser.ContextBoundary
import Drcpd.Browser.ContextBoundarySteps
import Drcpd.Browser.ContextBoundaryRuns
import Drcpd.Crawler.CacheEnforcer
import Drcpd.Crawler.Activation
import Drcpd.Dcp.Ascii
import Drcpd.Foundation.Memory
import Drcpd.Ui.ResumeUrls
import Drcpd.Lists.NavMirror
import Drcpd.Lists.NavUnfiltered
import Drcpd.Lists.NavPaging
import Drcpd.Lists.NavDisplay
import Drcpd.Foundation.StrictWeakOrder
import Drcpd.Player.AirableLinks
import Drcpd.Lists.EnterListSync
import Drcpd.Foundation.Xml
import Drcpd.Ui.MetaData
import Drcpd.Ui.PlayXml
import Drcpd.Lists.SegmentLines
import Drcpd.Lists.ViewportRanges
import Drcpd.Lists.HintedAccess
import Drcpd.Crawler.PlannedAccess
import Drcpd.Dcp.Writing
import Drcpd.Ui.ErrorSink
import Drcpd.Ui.ErrorSinkRuns
import Drcpd.Timeout.Timer
import Drcpd.Dcp.Answers
import Drcpd.Views.Manager
import Drcpd.Views.Display
import Drcpd.Ui.SearchDialog
import Drcpd.Ui.SearchDialogRuns
import Drcpd.Player.AudioSources
import Drcpd.Player.AudioSourceSteps
import Drcpd.Player.AudioSourceRuns
import Drcpd.Rnf.CookieCalls
import Drcpd.Rnf.CookieCallSteps
import Drcpd.Rnf.CookieCallRuns
import Drcpd.Browser.OAuth
import Drcpd.Browser.OAuthRuns
