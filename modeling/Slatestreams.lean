import Slatestreams.StreamLifecycle
import Slatestreams.StreamReservation
import Slatestreams.ReadResume
import Slatestreams.ReadsInert
import Slatestreams.StreamRecovery
import Slatestreams.KeyRange
import Slatestreams.KeySchema
import Slatestreams.ValueFormats
import Slatestreams.Storage.Allocation
import Slatestreams.Storage.InMemory
import Slatestreams.Listing
import Slatestreams.FailedAppends
import Slatestreams.OneIdentity
import Slatestreams.ConcurrentAppends
import Slatestreams.LedgerRefinement
import Slatestreams.ReaderProgress
import Slatestreams.RequestProgress
import Slatestreams.Responses
import Slatestreams.ReadEndings
import Slatestreams.MemoryServer
import Slatestreams.ServerAppends
import Slatestreams.ServerRecords
