import Bridgewire.Reader.Supervisor
import Bridgewire.Escalation

/-!
# The configuration

What `load_configuration` returns.
-/

namespace Bridgewire

structure SerialConfiguration where
  baudRate : Int
  dataBits : Int
  parity : String
  stopBits : Int
  timeoutSeconds : ℚ
  maximumRecordBytes : Int
  deriving DecidableEq, Repr

structure GpioConfiguration where
  numbering : String
  channel : Int
  normalHigh : Bool
  releaseHigh : Bool
  releaseSeconds : ℚ
  deriving DecidableEq, Repr

structure RelayConfiguration where
  backend : String
  deriving DecidableEq, Repr

structure ApiConfiguration where
  enabled : Bool := false
  host : String := "127.0.0.1"
  port : Int := 8080
  maxEventPageSize : Int := 100
  operationalSnapshotStaleAfterSeconds : ℚ := 10
  deriving DecidableEq, Repr

structure SystemConfiguration where
  readerIdentity : ReaderIdentity
  serial : SerialConfiguration
  gpio : GpioConfiguration
  backoff : BackoffPolicy
  escalation : EscalationPolicy
  relay : RelayConfiguration
  api : ApiConfiguration

end Bridgewire
