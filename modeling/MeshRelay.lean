import MeshRelay.Wire.Bytes
import MeshRelay.Config
import MeshRelay.Wire.Frame
import MeshRelay.Wire.FrameLaws
import MeshRelay.Wire.Hex
import MeshRelay.Pow.ProofOfWork
import MeshRelay.Pow.LeadingZeros
import MeshRelay.Pow.PowLaws
import MeshRelay.Session.Handshake
import MeshRelay.Session.HandshakeLaws
import MeshRelay.Session.HonestClient
import MeshRelay.Session.Flags
import MeshRelay.Mesh.Link
import MeshRelay.Mesh.LinkLaws
import MeshRelay.Mesh.KeyFiles
import MeshRelay.Router.Store
import MeshRelay.Router.StoreLaws
import MeshRelay.Router.Daemon
import MeshRelay.Router.Forwarding
import MeshRelay.Router.Runs
import MeshRelay.Router.Provenance
import MeshRelay.Router.Races
import MeshRelay.Router.WriteQueue
import MeshRelay.Router.RateLimit
import MeshRelay.Router.MeshNetwork
import MeshRelay.Router.MeshSafety
import MeshRelay.Client.Transport
import MeshRelay.Client.TransportLaws
