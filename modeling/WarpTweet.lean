import WarpTweet.Analysis.Admission
import WarpTweet.Analysis.Backoff
import WarpTweet.Analysis.BlockedClock
import WarpTweet.Analysis.BootStarts
import WarpTweet.Analysis.Candidates
import WarpTweet.Analysis.ClockMarks
import WarpTweet.Analysis.ConnectionSessions
import WarpTweet.Analysis.DeadInvites
import WarpTweet.Analysis.Eviction
import WarpTweet.Analysis.HostInvites
import WarpTweet.Analysis.HostReruns
import WarpTweet.Analysis.KeyFiles
import WarpTweet.Analysis.Locators
import WarpTweet.Analysis.Lockout
import WarpTweet.Analysis.LoginRace
import WarpTweet.Analysis.Negotiation
import WarpTweet.Analysis.Nonces
import WarpTweet.Analysis.Packets
import WarpTweet.Analysis.Ports
import WarpTweet.Analysis.ReceiveWindows
import WarpTweet.Analysis.Reconciliation
import WarpTweet.Analysis.Requests
import WarpTweet.Analysis.Retries
import WarpTweet.Analysis.SendWindows
import WarpTweet.Analysis.SingleUse
import WarpTweet.Analysis.Statuses
import WarpTweet.Analysis.Ticks
