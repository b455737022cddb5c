import DigestGate.Channel.Message
import DigestGate.Field.Error
import DigestGate.Settings.Error
import DigestGate.Text.Latin
import DigestGate.Url.Error

namespace DigestGate

/-- Why a stream refuses an operation. Closed streams differ in the text of the error. -/
inductive StreamError where
  | closedBody
  | closedRequest
  | closedFile
  | released
  | unsupported (operation : String)
  | sizeTooLarge
  | offsetTooLarge
  | negativePosition (position : Int)
deriving DecidableEq, Repr

def StreamError.message : StreamError → String
  | .closedBody => "I/O operation on closed body stream"
  | .closedRequest => "I/O operation on closed request body"
  | .closedFile => "I/O operation on closed file."
  | .released => "operation forbidden on released memoryview object"
  | .unsupported operation => operation
  | .sizeTooLarge => "cannot fit 'int' into an index-sized integer"
  | .offsetTooLarge => "Python int too large to convert to C ssize_t"
  | .negativePosition position => "negative seek value " ++ toString position

inductive SourceFailure where
  | system
  | value
  | runtime
deriving DecidableEq, Repr

/-- A use of a value that its kind does not allow. -/
inductive Use where
  | index
  | unpack
  | search
  | walk
  | key
  | pathStart
  | path
deriving DecidableEq, Repr

def Use.message (kind : String) : Use → String
  | .index => "'" ++ kind ++ "' object is not subscriptable"
  | .unpack => "cannot unpack non-iterable " ++ kind ++ " object"
  | .search => "argument of type '" ++ kind ++ "' is not iterable"
  | .walk => "'" ++ kind ++ "' object is not iterable"
  | .key => "unhashable type: '" ++ kind ++ "'"
  | .pathStart => "startswith first arg must be str or a tuple of str, not " ++ kind
  | .path => "expected string or bytes-like object, got '" ++ kind ++ "'"

/-- An ordinary failure, which a reader of a body may wrap. -/
inductive Fault where
  | source (kind : SourceFailure) (message : String)
  | field (error : FieldError)
  | stream (error : StreamError)
  | settings (error : SettingsError)
  | url (error : UrlError)
  | latin (error : Text.LatinError)
  | missingKey (key : Datum)
  | misused (use : Use) (kind : String)
  /-- The parts of an address are not all texts. -/
  | mixedAddress
  | notAPair (count : Nat)
  | notARequest
  /-- The client disconnects before the last part of the body. -/
  | disconnected
  /-- The client disconnects while the application reads the body. -/
  | hungUp
  | unexpectedMessage (type : Option Datum)
  | negativeLimit
  | emptyChunk
  | missingAttribute (owner : String) (name : String)
  /-- A request that was never set up has no attributes. -/
  | unbuiltAttribute (name : String)
  | notBytes (kind : String)
deriving DecidableEq, Repr

def Fault.missingField (name : String) : Fault :=
  .missingKey (.text name)

def Fault.message : Fault → String
  | .source _ message => message
  | .field error => error.message
  | .stream error => error.message
  | .settings error => error.message
  | .url error => error.message
  | .latin error => error.message
  | .missingKey key => key.shown
  | .misused use kind => use.message kind
  | .mixedAddress => "Cannot mix str and non-str arguments"
  | .notAPair count =>
    if count < 2 then "not enough values to unpack (expected 2, got " ++ toString count ++ ")"
    else "too many values to unpack (expected 2)"
  | .notARequest => ""
  | .hungUp => ""
  | .disconnected => "client disconnected before request body was complete"
  | .unexpectedMessage type => "unexpected ASGI message type: " ++ (type.getD .null).shown
  | .negativeLimit => "maximum_length must be >= 0"
  | .emptyChunk => "chunk_size must be > 0"
  | .missingAttribute owner name =>
    "'" ++ owner ++ "' object has no attribute '" ++ name ++ "'"
  | .unbuiltAttribute name => name
  | .notBytes kind => "can't concat " ++ kind ++ " to bytearray"

/-- Why a request has no body. Only these errors are stored. -/
inductive BodyError where
  | tooLarge (limit observed : Nat)
  | unreadable (cause : Fault)
  /-- The buffering was ended by something other than an ordinary fault. -/
  | aborted
  /-- The source raised a body error of its own. -/
  | refused (message : String)
  | alreadyBuffering
  | stillBuffering
  | handedOut
deriving DecidableEq, Repr

def BodyError.message : BodyError → String
  | .tooLarge limit observed =>
    "Request body too large: more than " ++ toString limit ++ " bytes (read " ++
      toString observed ++ ")"
  | .unreadable cause => "failed reading request body: " ++ cause.message
  | .aborted => "request body buffering was aborted"
  | .refused message => message
  | .alreadyBuffering => "request body is already being buffered"
  | .stillBuffering => "request body is still being buffered"
  | .handedOut => "request body was already handed out unbuffered"

inductive Failure where
  | fault (cause : Fault)
  | body (error : BodyError)
  | interrupted (message : String)
deriving DecidableEq, Repr

def Failure.message : Failure → String
  | .fault cause => cause.message
  | .body error => error.message
  | .interrupted message => message

end DigestGate
