import SkalarkiFcu.Dispatch
import SkalarkiFcu.Lamps
import SkalarkiFcu.Windows
import SkalarkiFcu.Baro
import SkalarkiFcu.RoundTrip
import SkalarkiFcu.Overflow
import SkalarkiFcu.Quiescence
import SkalarkiFcu.BaroSides
import SkalarkiFcu.NdMode
import SkalarkiFcu.Heading
import SkalarkiFcu.Dials
import SkalarkiFcu.Handover
import SkalarkiFcu.Altitude
import SkalarkiFcu.Stream
import SkalarkiFcu.Comm.Transmit
import SkalarkiFcu.Comm.Lifecycle
import SkalarkiFcu.Comm.Receive
import SkalarkiFcu.Comm.Semaphore
import SkalarkiFcu.Comm.LastSent
import SkalarkiFcu.Comm.Shutdown
import SkalarkiFcu.Comm.Liveness
import SkalarkiFcu.Comm.Presses
import SkalarkiFcu.Comm.Convergence
import SkalarkiFcu.Comm.Stop
import SkalarkiFcu.Channels
import SkalarkiFcu.Writes
import SkalarkiFcu.Comm.HeadingKnob
