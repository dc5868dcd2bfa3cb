import Microblog.Proofs.Cache.Expiry
import Microblog.Proofs.Http.Viewer
import Microblog.Proofs.Json.Lossless
import Microblog.Proofs.Live.EventStream
import Microblog.Proofs.Live.Heartbeat
import Microblog.Proofs.Live.Protocol
import Microblog.Proofs.Live.Registry
import Microblog.Proofs.Page.Exact
import Microblog.Proofs.Settings
import Microblog.Proofs.Social.Bonds
import Microblog.Proofs.Social.Finding
import Microblog.Proofs.Social.Profile
import Microblog.Proofs.Social.Reading
import Microblog.Proofs.Social.Retweeting
import Microblog.Proofs.Social.Separation
import Microblog.Proofs.Social.Streaming
import Microblog.Proofs.Social.Trending
import Microblog.Proofs.Social.Wording
import Microblog.Proofs.Store.Upgrade
import Microblog.Proofs.Text.Literal
import Microblog.Proofs.Throttle.Admission
import Microblog.Proofs.Throttle.Burst
import Microblog.Proofs.Throttle.Isolation
import Microblog.Proofs.Timeline.Degraded
import Microblog.Proofs.Timeline.Requests
import Microblog.Proofs.Upkeep.Freshness
import Microblog.Store.Location
import Microblog.Store.Transfer
