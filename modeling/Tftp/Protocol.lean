import Tftp.Value

/-! # Protocol constants

    RFC 1350 numbers the five packet kinds 1 to 5 and the error conditions 0 to 7.  Blocks hold
    512 bytes, block numbers are 16-bit, and a session waits 5 seconds for its peer and resends
    3 times by default.  `constants` lists the named constants with their values and
    `exportedNames` the public names of the library, both as they are reported. -/

namespace Tftp

/-- The five kinds of packet. -/
inductive Opcode where
  | rrq
  | wrq
  | data
  | ack
  | error
  deriving DecidableEq, Repr, Inhabited

namespace Opcode

/-- The number of the kind on the wire. -/
def code : Opcode → Nat
  | .rrq => 1
  | .wrq => 2
  | .data => 3
  | .ack => 4
  | .error => 5

/-- The kind with a given number. -/
def ofCode? : Nat → Option Opcode
  | 1 => some .rrq
  | 2 => some .wrq
  | 3 => some .data
  | 4 => some .ack
  | 5 => some .error
  | _ => none

end Opcode

/-! ## The TFTP error codes of RFC 1350 -/
namespace ErrorCode

/-- Not defined, see the message. -/
def undefined : Int := 0
/-- File not found. -/
def fileNotFound : Int := 1
/-- Access violation. -/
def accessViolation : Int := 2
/-- Disk full or allocation exceeded. -/
def diskFull : Int := 3
/-- Illegal TFTP operation. -/
def illegalOperation : Int := 4
/-- Unknown transfer ID. -/
def unknownTransferId : Int := 5
/-- File already exists. -/
def fileExists : Int := 6
/-- No such user. -/
def noSuchUser : Int := 7

end ErrorCode

/-- The greatest block number; the counter wraps to 0 after it. -/
def maxBlockNumber : Nat := 65535

/-- The size of a full DATA block; a shorter block ends a transfer. -/
def blockSize : Nat := 512

/-- The largest datagram a session receives. -/
def receiveBufferSize : Nat := 65535

/-- The well-known server port. -/
def defaultPort : Nat := 69

/-- How often a packet is resent by default. -/
def defaultRetries : Nat := 3

/-- How long, in seconds, a session waits for its peer by default. -/
def defaultTimeout : Nat := 5

/-- How often, in seconds, a serving loop checks whether it should stop. -/
def defaultPollInterval : Nat := 1

/-- The transfer mode for text. -/
def modeNetascii : String := "netascii"

/-- The transfer mode for bytes as they are, and the default of a client. -/
def modeOctet : String := "octet"

/-- The named constants of the protocol, each with its value. -/
def constants : List (String × Value) :=
  [("OPCODE_RRQ", .int Opcode.rrq.code), ("OPCODE_WRQ", .int Opcode.wrq.code),
   ("OPCODE_DATA", .int Opcode.data.code), ("OPCODE_ACK", .int Opcode.ack.code),
   ("OPCODE_ERROR", .int Opcode.error.code),
   ("MODE_NETASCII", .str modeNetascii), ("MODE_BINARY", .str modeOctet),
   ("ERR_UNDEFINED", .int ErrorCode.undefined), ("ERR_FILE_NOT_FOUND", .int ErrorCode.fileNotFound),
   ("ERR_ACCESS_VIOLATION", .int ErrorCode.accessViolation), ("ERR_DISK_FULL", .int ErrorCode.diskFull),
   ("ERR_ILLEGAL_OPERATION", .int ErrorCode.illegalOperation),
   ("ERR_UNKNOWN_TRANSFER_ID", .int ErrorCode.unknownTransferId),
   ("ERR_FILE_EXISTS", .int ErrorCode.fileExists), ("ERR_NO_SUCH_USER", .int ErrorCode.noSuchUser),
   ("MAX_BLOCK_NUMBER", .int maxBlockNumber), ("DEFAULT_BLKSIZE", .int blockSize),
   ("RECV_BUFFER_SIZE", .int receiveBufferSize), ("DEFAULT_PORT", .int defaultPort),
   ("DEFAULT_RETRIES", .int defaultRetries), ("DEFAULT_TIMEOUT", .int defaultTimeout),
   ("DEFAULT_POLL_INTERVAL", .int defaultPollInterval)]

/-- The public names of the library, in sorted order. -/
def exportedNames : List String :=
  ["BaseServer", "Client", "ForeignPeer", "HandlerFailure", "MalformedPacket", "PeerAbort",
   "PipeReader", "PipeWriter", "ProtocolTimeout", "ReceiverSession", "RetryPolicy",
   "SenderSession", "SessionStats", "TftpError", "TransportFailure", "pipe"]

end Tftp
