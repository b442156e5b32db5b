import EspBridges.Lib.Bytes
import EspBridges.Lib.Machine
import EspBridges.Lib.Paired
import EspBridges.Lib.Tlv
import EspBridges.Lib.Ltv
import EspBridges.Lib.Queue
import EspBridges.Lib.Program
import EspBridges.Lib.Crc
import EspBridges.Lib.CrcErrors
import EspBridges.Lib.Cells
import EspBridges.Lib.Heap
import EspBridges.Ccu.Protocol
import EspBridges.Ccu.State
import EspBridges.Ccu.Frames
import EspBridges.Ccu.Fsm
import EspBridges.Ccu.Audio
import EspBridges.Ccu.BleApis
import EspBridges.Ccu.MsgHandler
import EspBridges.Ccu.SerialTask
import EspBridges.Ccu.Gatts
import EspBridges.Ccu.FrameLaws
import EspBridges.Ccu.SerialLaws
import EspBridges.Ccu.AudioLaws
import EspBridges.Ccu.CommandLaws
import EspBridges.Ccu.PacketLaws
import EspBridges.Ccu.BridgeLaws
import EspBridges.Ccu.AuthLaws
import EspBridges.Ccu.WaitingLaws
import EspBridges.Ccu.ExchangeLaws
import EspBridges.Ccu.SourceLaws
import EspBridges.Ccu.MultipartLaws
import EspBridges.Ccu.ScanLaws
import EspBridges.Ccu.PacketReads
import EspBridges.Ccu.HeaderLaws
import EspBridges.Ccu.RequestLaws
import EspBridges.Ccu.ListingLaws
import EspBridges.Ccu.Moments
import EspBridges.Ccu.ScanIsolation
import EspBridges.Ccu.StaticsLaws
import EspBridges.Ccu.LoginLaws
import EspBridges.Ccu.UploadLaws
import EspBridges.Ccu.SessionIsolation
import EspBridges.Ccu.SharedBuffer
import EspBridges.Ccu.EncoderLaws
import EspBridges.Ccu.LoginRequest
import EspBridges.Ccu.SerialBounds
import EspBridges.Ccu.PacketBounds
import EspBridges.Ccu.ReadyLaws
import EspBridges.Ccu.ListingBounds
import EspBridges.Ccu.RejectionLaws
import EspBridges.Ccu.WriteBounds
import EspBridges.Ccu.SameFrames
import EspBridges.Ccu.TwoRuns
import EspBridges.Ccu.Calls
import EspBridges.Ccu.BufferLaws
import EspBridges.Ccu.MemoryLaws
import EspBridges.Ccu.MemoryTraces
import EspBridges.Ccu.RelayLaws
import EspBridges.Ccu.NumberLaws
import EspBridges.Ccu.ChunkLaws
import EspBridges.Ccu.Advert
import EspBridges.Ccu.AdvertLaws
import EspBridges.Icom.Ipc
import EspBridges.Icom.IpcLaws
import EspBridges.Icom.Config
import EspBridges.Icom.ConfigLaws
import EspBridges.Icom.Modbus
import EspBridges.Icom.Timer
import EspBridges.Icom.ModbusTask
import EspBridges.Icom.ModbusLaws
import EspBridges.Icom.PollLaws
import EspBridges.Icom.Expiry
import EspBridges.Icom.TableLaws
import EspBridges.Icom.TimerLaws
import EspBridges.Icom.ConnectLaws
import EspBridges.Icom.ReadLaws
import EspBridges.Icom.StorageLaws
import EspBridges.Icom.TextLaws
import EspBridges.Icom.Wifi
import EspBridges.Icom.WifiLaws
import EspBridges.Icom.HealthPing
import EspBridges.Icom.HealthPingLaws
import EspBridges.Modbus.Receive
import EspBridges.Modbus.Master
import EspBridges.Modbus.Reply
import EspBridges.Modbus.Memory
import EspBridges.Modbus.ReceiveLaws
import EspBridges.Modbus.ErrorLaws
import EspBridges.Modbus.DataLaws
import EspBridges.Modbus.ConfirmLaws
import EspBridges.Modbus.ServeLaws
import EspBridges.Modbus.ReplyLaws
import EspBridges.Modbus.TurnLaws
import EspBridges.Modbus.ServerLaws
import EspBridges.Modbus.MasterLaws
import EspBridges.Modbus.Bus
import EspBridges.Modbus.BusLaws
import EspBridges.Modbus.PollsServed
import EspBridges.Modbus.RawLaws
import EspBridges.Modbus.Data
import EspBridges.Modbus.CodecLaws
import EspBridges.Modbus.Alloc
import EspBridges.Modbus.AllocLaws
import EspBridges.Bt.AppCore
import EspBridges.Bt.AppCoreLaws
