import ZdtmSync.LittleEndian
import ZdtmSync.Chunked
import ZdtmSync.ByteCodec
import ZdtmSync.CMemory
import ZdtmSync.Types
import ZdtmSync.Common
import ZdtmSync.DesktopMsg
import ZdtmSync.ZaurusMsg
import ZdtmSync.Msgs
import ZdtmSync.Writers
import ZdtmSync.TodoRecord
import ZdtmSync.Prepare
import ZdtmSync.Sizes
import ZdtmSync.Net
import ZdtmSync.Delivery
import ZdtmSync.Parsing
import ZdtmSync.Framing
import ZdtmSync.Receiving
import ZdtmSync.WireFormat
import ZdtmSync.ByteOrder
import ZdtmSync.Records
import ZdtmSync.Items
import ZdtmSync.FixedFields
import ZdtmSync.Filling
import ZdtmSync.Contents
import ZdtmSync.Decoding
import ZdtmSync.Programs
import ZdtmSync.Session
import ZdtmSync.Connections
import ZdtmSync.Exchanges
import ZdtmSync.Operations
import ZdtmSync.Discipline
import ZdtmSync.Atomic
import ZdtmSync.SlowSync
import ZdtmSync.Stages
import ZdtmSync.Descriptors
import ZdtmSync.Script
import ZdtmSync.Leaks
import ZdtmSync.Overruns
import ZdtmSync.Strings
import ZdtmSync.Documented
import ZdtmSync.ItemLengths
import ZdtmSync.Untouched
import ZdtmSync.Truncation
import ZdtmSync.Checksums
import ZdtmSync.Sending
import ZdtmSync.SyncIds
import ZdtmSync.Passcodes
import ZdtmSync.Anchor
import ZdtmSync.Log
import ZdtmSync.Dumps
import ZdtmSync.Api
import ZdtmSync.Judgments
import ZdtmSync.Cuts
import ZdtmSync.Daemon
import ZdtmSync.Dialogues
import ZdtmSync.Fetches
import ZdtmSync.Recitals
import ZdtmSync.Faults
import ZdtmSync.Loopback
import ZdtmSync.Reuse
import ZdtmSync.Completion
