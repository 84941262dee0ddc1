import Pywssocks.Frame
import Pywssocks.PortPool
import Pywssocks.SocketManager
import Pywssocks.Server
import Pywssocks.Admin
import Pywssocks.Session
import Pywssocks.Step
import Pywssocks.Exec
import Pywssocks.Ports
import Pywssocks.Clients
import Pywssocks.Registry
import Pywssocks.Sockets
import Pywssocks.Routing
import Pywssocks.RoundRobin
import Pywssocks.Inbound
import Pywssocks.Handlers
import Pywssocks.Startup
import Pywssocks.Supervisors
