import XdpProfile.Records
import XdpProfile.Clock
import XdpProfile.Decode
import XdpProfile.LogTrace
import XdpProfile.Ingest
import XdpProfile.SlotFifo
import XdpProfile.Toggle
import XdpProfile.Ordering
import XdpProfile.PostPass
import XdpProfile.Training
import XdpProfile.Emulation
import XdpProfile.BinaryStrings
import XdpProfile.BatchSplit
import XdpProfile.Frames
