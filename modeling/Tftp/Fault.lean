import Tftp.Value.Literal
import Tftp.Protocol

/-! # Faults and failures

    The engine raises faults of seven classes, each carrying the TFTP error code that is reported
    to a peer when the fault ends a transfer: malformed packets carry 4 (illegal operation),
    foreign peers 5 (unknown transfer ID), and all others 0 unless a code is given.

    Around the engine, handlers, sockets and codecs raise errors of the host: a file that is not
    found, a refused permission, a broken pipe and so on.  A `Failure` is either, and
    `Failure.errorCode` is the code under which a handler's failure is reported: a fault's own
    code, 1, 2 or 6 for a missing file, a refused permission or an existing file, and 0 for the
    rest. -/

namespace Tftp

/-- The engine's fault classes; `general` is the class that all others refine. -/
inductive FaultKind where
  | general
  | malformedPacket
  | foreignPeer
  | protocolTimeout
  | peerAbort
  | transportFailure
  | handlerFailure
  deriving DecidableEq, Repr, Inhabited

namespace FaultKind

/-- The code a fault of the class carries unless it was given one. -/
def defaultCode : FaultKind → Int
  | .malformedPacket => ErrorCode.illegalOperation
  | .foreignPeer => ErrorCode.unknownTransferId
  | _ => ErrorCode.undefined

/-- The name under which a fault of the class is reported. -/
def name : FaultKind → String
  | .general => "TftpError"
  | .malformedPacket => "MalformedPacket"
  | .foreignPeer => "ForeignPeer"
  | .protocolTimeout => "ProtocolTimeout"
  | .peerAbort => "PeerAbort"
  | .transportFailure => "TransportFailure"
  | .handlerFailure => "HandlerFailure"

/-- A malformed packet is also an invalid value to the caller that passed it. -/
def isValueError : FaultKind → Bool
  | .malformedPacket => true
  | _ => false

/-- Every class. -/
def all : List FaultKind :=
  [.general, .malformedPacket, .foreignPeer, .protocolTimeout, .peerAbort, .transportFailure,
   .handlerFailure]

/-- The class of a name. -/
def ofName? (s : String) : Option FaultKind :=
  all.find? fun k => k.name == s

end FaultKind

/-- An engine fault: its class, its message and the TFTP error code reported for it.  The engine
    writes its messages as text and its codes as integers; a caller may give any value for
    either, and a code that is no integer in range fails only when it is written into a
    packet. -/
structure Fault where
  kind : FaultKind
  message : Value
  code : Value
  deriving Inhabited

/-- A fault of a class with a message, carrying the given code or else the class's own. -/
def Fault.build (kind : FaultKind) (message : Value) (code : Option Value) : Fault :=
  ⟨kind, message, code.getD (.int kind.defaultCode)⟩

/-- A fault of a class with a text message, carrying the given code or else the class's own. -/
def Fault.make (kind : FaultKind) (message : Text) (code : Option Int) : Fault :=
  Fault.build kind (.str message) (code.map .int)

/-- The text of a fault: its message as text. -/
def Fault.text (f : Fault) : Text := Literal.text f.message

/-- Classes of errors raised by the host around the engine. -/
inductive HostKind where
  | fileNotFound
  | permission
  | fileExists
  | isADirectory
  | brokenPipe
  | os
  | value
  | runtime
  | key
  | exception
  | notImplemented
  | type
  | attribute
  | unicodeEncode
  | packing
  | overflow
  | addressLookup
  | timeout
  deriving DecidableEq, Repr, Inhabited

namespace HostKind

/-- The name under which an error of the class is reported. -/
def name : HostKind → String
  | .fileNotFound => "FileNotFoundError"
  | .permission => "PermissionError"
  | .fileExists => "FileExistsError"
  | .isADirectory => "IsADirectoryError"
  | .brokenPipe => "BrokenPipeError"
  | .os => "OSError"
  | .value => "ValueError"
  | .runtime => "RuntimeError"
  | .key => "KeyError"
  | .exception => "Exception"
  | .notImplemented => "NotImplementedError"
  | .type => "TypeError"
  | .attribute => "AttributeError"
  | .unicodeEncode => "UnicodeEncodeError"
  | .packing => "error"
  | .overflow => "OverflowError"
  | .addressLookup => "gaierror"
  | .timeout => "TimeoutError"

/-- Every class. -/
def all : List HostKind :=
  [.fileNotFound, .permission, .fileExists, .isADirectory, .brokenPipe, .os, .value, .runtime,
   .key, .exception, .notImplemented, .type, .attribute, .unicodeEncode, .packing, .overflow,
   .addressLookup, .timeout]

/-- The class of a name. -/
def ofName? (s : String) : Option HostKind :=
  all.find? fun k => k.name == s

/-- The class is the operating system's error class or one of its subclasses. -/
def isOSError : HostKind → Bool
  | .fileNotFound | .permission | .fileExists | .isADirectory | .brokenPipe | .os
  | .addressLookup | .timeout => true
  | _ => false

end HostKind

/-- What a stream end, a socket or a codec raises: an engine fault, or a host error with the
    argument it was built with, if any. -/
inductive Failure where
  | fault (f : Fault)
  | host (kind : HostKind) (argument : Option Value)
  deriving Inhabited

namespace Failure

/-- A host error with a text argument. -/
def ofHost (kind : HostKind) (text : String) : Failure :=
  .host kind (some (.str text))

/-- The text of a failure: a fault's message, a host error's argument, which a missing key
    shows as a literal, and nothing for a host error built without one. -/
def text : Failure → Text
  | .fault f => f.text
  | .host .key (some m) => Literal.value m
  | .host _ (some m) => Literal.text m
  | .host _ none => ⟨[]⟩

/-- The name of the failure's class. -/
def name : Failure → String
  | .fault f => f.kind.name
  | .host k _ => k.name

/-- The code a fault carries; host errors carry none. -/
def code? : Failure → Option Value
  | .fault f => some f.code
  | .host _ _ => none

/-- The TFTP error code under which a handler's failure is reported. -/
def errorCode : Failure → Value
  | .fault f => f.code
  | .host .fileNotFound _ => .int ErrorCode.fileNotFound
  | .host .permission _ => .int ErrorCode.accessViolation
  | .host .fileExists _ => .int ErrorCode.fileExists
  | .host _ _ => .int ErrorCode.undefined

/-- A fault of a class with a message and the class's code. -/
def ofKind (kind : FaultKind) (message : Text) : Failure :=
  .fault (Fault.make kind message none)

/-- The failure of a class given by its name, with a message and, for a fault, a code that
    replaces the class's own; a fault's message defaults to the empty text. -/
def build? (name : String) (message : Option Value) (code : Option Value) : Option Failure :=
  match FaultKind.ofName? name with
  | some k => some (.fault (Fault.build k (message.getD (.str ⟨[]⟩)) code))
  | none => (HostKind.ofName? name).map fun k => .host k message

/-- The fault that reports a failure of the handler behind a stream end: its text, or its class
    name when the text is empty, and its error code. -/
def toHandlerFault (f : Failure) : Fault :=
  let t := f.text
  ⟨.handlerFailure, .str (if t.isEmpty then Text.ofString f.name else t), f.errorCode⟩

/-- The failure is an engine fault. -/
def isFault : Failure → Bool
  | .fault _ => true
  | .host _ _ => false

/-- The failure is a value error: a malformed packet, or a host error of the value class or of
    its subclass for text that cannot be encoded. -/
def isValueError : Failure → Bool
  | .fault f => f.kind == .malformedPacket
  | .host k _ => k == .value || k == .unicodeEncode

/-- The failure is a transport failure. -/
def isTransport : Failure → Bool
  | .fault f => f.kind == .transportFailure
  | .host _ _ => false

/-- The failure is an error of the operating system. -/
def isOSError : Failure → Bool
  | .fault _ => false
  | .host k _ => k.isOSError

/-- An integer took part in arithmetic with a double but lies beyond the largest double. -/
def tooLarge : Failure := ofHost .overflow "int too large to convert to float"

/-- The general fault that stands for a failure which is no fault: its text and code 0. -/
def toFault : Failure → Fault
  | .fault f => f
  | f => Fault.build .general (.str f.text) none

end Failure

end Tftp
