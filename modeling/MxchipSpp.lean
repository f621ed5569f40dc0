import MxchipSpp.Lib.Memory
import MxchipSpp.Lib.Ring
import MxchipSpp.Lib.Outcome
import MxchipSpp.Lib.Stuffing
import MxchipSpp.Lib.Endian
import MxchipSpp.Lib.Reassembly
import MxchipSpp.Lib.Queue
import MxchipSpp.Lib.RefCount
import MxchipSpp.Lib.Crc
import MxchipSpp.Lib.Search
import MxchipSpp.Lib.Cipher
import MxchipSpp.Lib.Slots
import MxchipSpp.Word
import MxchipSpp.Fifo
import MxchipSpp.FifoQueue
import MxchipSpp.Check
import MxchipSpp.Device
import MxchipSpp.Receive
import MxchipSpp.Send
import MxchipSpp.Control
import MxchipSpp.FrameData
import MxchipSpp.Receiver
import MxchipSpp.Leftover
import MxchipSpp.Settings
import MxchipSpp.Stream
import MxchipSpp.Bounds
import MxchipSpp.Delivery
import MxchipSpp.BackToBack
import MxchipSpp.Chunks
import MxchipSpp.UartRecv
import MxchipSpp.Silence
import MxchipSpp.Mailbox
import MxchipSpp.Resend
import MxchipSpp.Decoder
import MxchipSpp.RoundTrip
import MxchipSpp.NewGrammar
import MxchipSpp.Overrun
import MxchipSpp.Geniot
import MxchipSpp.Converters
import MxchipSpp.Gateway
import MxchipSpp.Answers
import MxchipSpp.Framing
import MxchipSpp.Correlation
import MxchipSpp.Datagram
import MxchipSpp.Ota
import MxchipSpp.Session
import MxchipSpp.Binding
import MxchipSpp.Numbering
import MxchipSpp.Grammar
import MxchipSpp.CommandAck
import MxchipSpp.Retransmission
import MxchipSpp.Spp
import MxchipSpp.Sharing
import MxchipSpp.Broadcast
import MxchipSpp.Crc
import MxchipSpp.CrcCheck
import MxchipSpp.Encoders
import MxchipSpp.Transparency
import MxchipSpp.Joylink
import MxchipSpp.Upload
import MxchipSpp.Base64
import MxchipSpp.Overread
import MxchipSpp.OtaData
import MxchipSpp.RemoteTcpClient
import MxchipSpp.Json
import MxchipSpp.AesTables
import MxchipSpp.Aes
import MxchipSpp.AesCbc
import MxchipSpp.JoylinkAes
import MxchipSpp.JoylinkSecurity
import MxchipSpp.JoylinkJoin
import MxchipSpp.JoylinkServer
import MxchipSpp.JoylinkSession
import MxchipSpp.JoylinkTimer
