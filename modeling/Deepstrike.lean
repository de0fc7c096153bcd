import Deepstrike.Replaying
import Deepstrike.Restoring
import Deepstrike.Resettling
import Deepstrike.Publishing
import Deepstrike.Recovering
import Deepstrike.Rebasing
import Deepstrike.Claiming
import Deepstrike.Conserving
import Deepstrike.Requeueing
import Deepstrike.Reinstating
import Deepstrike.Ancestry
import Deepstrike.Expiring
import Deepstrike.Prefixes
import Deepstrike.Pacing
import Deepstrike.Upholding
import Deepstrike.Leaking
import Deepstrike.Encodings
import Deepstrike.Messaging
import Deepstrike.Suspending
import Deepstrike.Attesting
import Deepstrike.Coinciding
import Deepstrike.Branding
import Deepstrike.Reprojecting
import Deepstrike.Refusing
import Deepstrike.Publication
import Deepstrike.Throttling
import Deepstrike.Patterns
import Deepstrike.Constraining
import Deepstrike.Indexing
import Deepstrike.Authorizing
import Deepstrike.Rollbacks
import Deepstrike.Concurring
import Deepstrike.Carrying
import Deepstrike.Answering
import Deepstrike.Quarantining
import Deepstrike.Recalling
import Deepstrike.Minting
