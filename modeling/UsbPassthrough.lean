import UsbPassthrough.PyDict
import UsbPassthrough.Json.Value
import UsbPassthrough.Json.Dumps
import UsbPassthrough.Json.Loads
import UsbPassthrough.Json.RoundTrip
import UsbPassthrough.Json.Indent
import UsbPassthrough.Channel.Transport
import UsbPassthrough.Channel.Reference
import UsbPassthrough.Vsock.Transport
import UsbPassthrough.Dpm.Messages
import UsbPassthrough.Dpm.RoundTrip
import UsbPassthrough.Dpm.Decoders
import UsbPassthrough.Host.Service
import UsbPassthrough.Host.Invariants
import UsbPassthrough.Host.Passthrough
import UsbPassthrough.Host.Vhotplug
import UsbPassthrough.Host.Placement
import UsbPassthrough.Guest.Register
import UsbPassthrough.Guest.Bridge
import UsbPassthrough.Mirror.Sequential
import UsbPassthrough.Mirror.Interleaving
import UsbPassthrough.Gui.Handler
import UsbPassthrough.Vsock.Dispatch
import UsbPassthrough.Guest.Service
import UsbPassthrough.Guest.Popup
import UsbPassthrough.Vsock.Client
import UsbPassthrough.Vsock.Worker
import UsbPassthrough.Vsock.ClientSend
import UsbPassthrough.Vsock.Server
