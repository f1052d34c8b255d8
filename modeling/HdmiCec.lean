import HdmiCec.Frame.Buffer
import HdmiCec.Osal.Fifo
import HdmiCec.Osal.Waiting
import HdmiCec.Osal.Resting
import HdmiCec.Operands.Parsing
import HdmiCec.Codec.Extraction
import HdmiCec.Codec.Printing
import HdmiCec.Codec.Descriptors
import HdmiCec.Codec.Offsets
import HdmiCec.Codec.Counting
import HdmiCec.Driver.Reception
import HdmiCec.System.Lifecycle
import HdmiCec.System.Stopping
import HdmiCec.System.Fifo
import HdmiCec.System.Isolation
import HdmiCec.System.Flushing
import HdmiCec.System.Reception
import HdmiCec.System.ReadEnd
import HdmiCec.Driver.Registry
import HdmiCec.Driver.Threads
import HdmiCec.System.Coherence
import HdmiCec.Sending.Reuse
import HdmiCec.Sending.Acknowledged
import HdmiCec.System.Filtering
import HdmiCec.System.Listeners
import HdmiCec.System.Dispatch
import HdmiCec.System.Reentrance
import HdmiCec.System.Copies
import HdmiCec.System.Locking
import HdmiCec.System.Ownership
import HdmiCec.System.Listening
import HdmiCec.System.Outgoing
