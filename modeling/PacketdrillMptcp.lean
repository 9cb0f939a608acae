import PacketdrillMptcp.ByteOrder
import PacketdrillMptcp.Crypto
import PacketdrillMptcp.Packet
import PacketdrillMptcp.State
import PacketdrillMptcp.MpCapable
import PacketdrillMptcp.MpJoin
import PacketdrillMptcp.Dss
import PacketdrillMptcp.Engine
import PacketdrillMptcp.Failures
import PacketdrillMptcp.Keys
import PacketdrillMptcp.DataSeq
import PacketdrillMptcp.Subflows
import PacketdrillMptcp.JoinFields
import PacketdrillMptcp.Names
import PacketdrillMptcp.AddrIds
import PacketdrillMptcp.DssFields
import PacketdrillMptcp.Bindings
import PacketdrillMptcp.NameBuffers
import PacketdrillMptcp.Interleaving
import PacketdrillMptcp.OptionLayout
import PacketdrillMptcp.Crashes
import PacketdrillMptcp.Statuses
import PacketdrillMptcp.Isolation
import PacketdrillMptcp.CapableHandshake
import PacketdrillMptcp.JoinHandshake
import PacketdrillMptcp.JoinInterleaving
