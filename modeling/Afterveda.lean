import Afterveda.Onvif.Equiv.App
import Afterveda.Onvif.Equiv.Auth
import Afterveda.Onvif.Equiv.Discovery
import Afterveda.Onvif.Equiv.Health
import Afterveda.Onvif.Equiv.HttpClient
import Afterveda.Onvif.Equiv.Identity
import Afterveda.Onvif.Equiv.Imaging
import Afterveda.Onvif.Equiv.Interfaces
import Afterveda.Onvif.Equiv.Interleaving
import Afterveda.Onvif.Equiv.Json
import Afterveda.Onvif.Equiv.Login
import Afterveda.Onvif.Equiv.Mediation
import Afterveda.Onvif.Equiv.Osd
import Afterveda.Onvif.Equiv.OsdLength
import Afterveda.Onvif.Equiv.Secrecy
import Afterveda.Onvif.Equiv.Session
import Afterveda.Onvif.Equiv.Shifts
import Afterveda.Onvif.Equiv.Timestamp
import Afterveda.Onvif.Equiv.Tokens
import Afterveda.Onvif.Equiv.Video
import Afterveda.Onvif.Equiv.Wire
import Afterveda.Ptz.Equiv.Axes
import Afterveda.Ptz.Equiv.Generation
import Afterveda.Ptz.Equiv.Home
import Afterveda.Ptz.Equiv.Status
import Afterveda.Ptz.Equiv.Timeout
import Afterveda.Ptz.Equiv.Write
import Afterveda.Rail.Equiv.Arguments
import Afterveda.Rail.Equiv.Callbacks
import Afterveda.Rail.Equiv.Clients
import Afterveda.Rail.Equiv.Encoder
import Afterveda.Rail.Equiv.HandOff
import Afterveda.Rail.Equiv.Launch
import Afterveda.Rail.Equiv.Lifecycle
import Afterveda.Rail.Equiv.Order
import Afterveda.Rail.Equiv.Products
import Afterveda.Rail.Equiv.Range
