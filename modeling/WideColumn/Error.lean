import WideColumn.Charset.Codec
import WideColumn.Kinds
import WideColumn.Pattern.Fault
import WideColumn.Settings.Issue
import WideColumn.Value.Misuse

/-!
# Errors

Every failure of the library as a cause with the data that belongs to it. Three groups matter to
callers. Bad input is refused at once, from the call that received it. Failures of execution are
delivered through the deferred result of the request. A second completion of a deferred result is a
mistake of whoever completes it. The message and the class name of an error are functions of its
cause.
-/
namespace WideColumn

/-- The classes of errors. -/
inductive ErrorKind where
  /-- Root of all classes. -/
  | base
  /-- Ordinary errors. -/
  | exception
  /-- A system failure. -/
  | os
  /-- An expired wait. -/
  | systemTimeout
  /-- A file that is not there. -/
  | fileNotFound
  /-- A failed look-up. -/
  | lookup
  /-- A missing key. -/
  | key
  /-- A bad value. -/
  | value
  /-- A text conversion. -/
  | unicode
  /-- A text that cannot be encoded. -/
  | unicodeEncode
  /-- Bytes that cannot be decoded. -/
  | unicodeDecode
  /-- A mistake found while running. -/
  | runtime
  /-- A value of the wrong kind. -/
  | type
  /-- A missing or protected attribute. -/
  | access
  /-- A field of a frozen record. -/
  | frozenInstance
  /-- A number too large. -/
  | arithmetic
  /-- A number too large for its place. -/
  | overflow
  /-- A pattern that is no regular expression. -/
  | pattern
  /-- Retries that ran out. -/
  | retry
  /-- Settings that do not validate. -/
  | validation
  /-- Root of the errors of this library. -/
  | library
  /-- A request that does not validate. -/
  | invalidRequest
  /-- A filter that cannot be represented. -/
  | invalidFilter
  /-- A charset that is unknown or no conversion. -/
  | unsupportedEncoding
  /-- A write beyond the bound. -/
  | bufferFull
  /-- A request after closing. -/
  | clientClosed
  /-- A filter that cannot be converted. -/
  | filterConversion
  /-- A failed call of the store. -/
  | backendOperation
  /-- A failed call: the table is missing. -/
  | tableNotFoundError
  /-- A failed call: the family is missing. -/
  | noSuchColumnFamilyError
  /-- A call that failed on every attempt. -/
  | retriesExhausted
  /-- A flush with failed members. -/
  | flushFailed
  /-- An expired wait for a deferred result. -/
  | deferredTimeout
  /-- A second completion. -/
  | doubleCompletion
  /-- Root of the errors of the store. -/
  | backend
  /-- The store has no such table. -/
  | tableNotFound
  /-- The store has that table already. -/
  | tableExists
  /-- The table has no such family. -/
  | noSuchColumnFamily
  /-- The store cannot serve the call right now. -/
  | backendUnavailable
  /-- A name that no deferred result was stored under. -/
  | unknownDeferred
  /-- A wait that would never end. -/
  | wouldBlock
deriving DecidableEq

namespace ErrorKind

/-- The name of a class. -/
def name : ErrorKind → String
  | base => "BaseException"
  | exception => "Exception"
  | os => "OSError"
  | systemTimeout => "TimeoutError"
  | fileNotFound => "FileNotFoundError"
  | lookup => "LookupError"
  | key => "KeyError"
  | value => "ValueError"
  | unicode => "UnicodeError"
  | unicodeEncode => "UnicodeEncodeError"
  | unicodeDecode => "UnicodeDecodeError"
  | runtime => "RuntimeError"
  | type => "TypeError"
  | access => "AttributeError"
  | frozenInstance => "FrozenInstanceError"
  | arithmetic => "ArithmeticError"
  | overflow => "OverflowError"
  | pattern => "error"
  | retry => "RetryError"
  | validation => "ValidationError"
  | library => "AsyncTableError"
  | invalidRequest => "InvalidRequestError"
  | invalidFilter => "InvalidFilterError"
  | unsupportedEncoding => "UnsupportedEncodingError"
  | bufferFull => "BufferFullError"
  | clientClosed => "ClientClosedError"
  | filterConversion => "FilterTranslationError"
  | backendOperation => "BackendOperationError"
  | tableNotFoundError => "TableNotFoundError"
  | noSuchColumnFamilyError => "NoSuchColumnFamilyError"
  | retriesExhausted => "RetriesExhaustedError"
  | flushFailed => "FlushFailedError"
  | deferredTimeout => "DeferredTimeoutError"
  | doubleCompletion => "DoubleCompletionError"
  | backend => "BackendError"
  | tableNotFound => "TableNotFound"
  | tableExists => "TableExists"
  | noSuchColumnFamily => "NoSuchColumnFamily"
  | backendUnavailable => "BackendUnavailableError"
  | unknownDeferred => "UnknownDeferred"
  | wouldBlock => "WouldBlock"

/-- The classes directly above a class. -/
def parents : ErrorKind → List ErrorKind
  | base => []
  | exception => [base]
  | systemTimeout | fileNotFound => [os]
  | key => [lookup]
  | unicode => [value]
  | unicodeEncode | unicodeDecode => [unicode]
  | frozenInstance => [access]
  | overflow => [arithmetic]
  | validation => [value]
  | invalidRequest | invalidFilter => [library, value]
  | unsupportedEncoding => [library, lookup]
  | deferredTimeout => [library, systemTimeout]
  | doubleCompletion => [library, runtime]
  | bufferFull | clientClosed | filterConversion | backendOperation | flushFailed => [library]
  | tableNotFoundError | noSuchColumnFamilyError | retriesExhausted => [backendOperation]
  | tableNotFound | tableExists | noSuchColumnFamily | backendUnavailable => [backend]
  | _ => [exception]

/-- A class and all classes above it, up to the given height. -/
def lineage : (height : Nat) → ErrorKind → List ErrorKind
  | 0, kind => [kind]
  | height + 1, kind => kind :: kind.parents.flatMap (lineage height)

/-- The names of a class and of all classes above it, sorted and each once. -/
def ancestors (kind : ErrorKind) : List String :=
  let names := ((kind.lineage 6).map name).mergeSort fun a b => a ≤ b
  names.foldr (fun name rest => if rest.head? == some name then rest else name :: rest) []

end ErrorKind

/-- Classes of errors that carry a message at most. -/
inductive PlainKind where
  /-- A system failure. -/
  | os
  /-- A missing key. -/
  | key
  /-- A bad value. -/
  | value
  /-- A mistake found while running. -/
  | runtime
  /-- A value of the wrong kind. -/
  | type
  /-- A missing attribute. -/
  | access
  /-- Any error of this library. -/
  | library
  /-- A request that does not validate. -/
  | invalidRequest
  /-- A filter that cannot be represented. -/
  | invalidFilter
  /-- A request after closing. -/
  | clientClosed
  /-- Any error of the store. -/
  | backend
  /-- The store cannot serve the call right now. -/
  | backendUnavailable
deriving DecidableEq

/-- The class of a plain error. -/
def PlainKind.kind : PlainKind → ErrorKind
  | os => .os
  | key => .key
  | value => .value
  | runtime => .runtime
  | type => .type
  | access => .access
  | library => .library
  | invalidRequest => .invalidRequest
  | invalidFilter => .invalidFilter
  | clientClosed => .clientClosed
  | backend => .backend
  | backendUnavailable => .backendUnavailable

/-- Why a request does not validate. -/
inductive RequestFault where
  /-- A field that holds neither bytes nor text. -/
  | notBytes (field type : String)
  /-- One qualifier in place of a sequence of them. -/
  | singleQualifier (field : String)
  /-- An empty sequence of qualifiers. -/
  | noQualifiers (field : String)
  /-- An empty field. -/
  | emptyField (kind : RequestKind) (field : String)
  /-- Qualifiers without a family. -/
  | qualifiersWithoutFamily (kind : RequestKind)
  /-- A range whose ends are out of order. -/
  | startAfterStop (start stop : Bytes)
  /-- A row limit below one. -/
  | rowLimit (limit : Value)
  /-- A request of another kind than the operation takes. -/
  | wrongRequest (expected actual : String)

/-- The message of a request fault. -/
def RequestFault.message : RequestFault → Text
  | notBytes field type => field ++ " must be bytes or str, got " ++ type
  | singleQualifier field => field ++ " must be a sequence of qualifiers, not a single value"
  | noQualifiers field => field ++ " must not be empty; pass None to select every column"
  | emptyField kind field => kind.name ++ ": " ++ field ++ " must not be empty"
  | qualifiersWithoutFamily kind => kind.name ++ ": qualifiers require a family"
  | startAfterStop start stop =>
    "scan: start_key " ++ start.quoted ++ " sorts after stop_key " ++ stop.quoted
  | rowLimit limit => "scan: max_rows must be >= 1, got " ++ limit.display
  | wrongRequest expected actual => "Expected " ++ expected ++ ", got " ++ actual

/-- Why a filter cannot be represented. -/
inductive FilterFault where
  /-- An empty pattern. -/
  | emptyPattern
  /-- A pattern that the charset cannot hold. -/
  | notRepresentable (pattern : Text) (charset : String) (fault : Charset.Fault)
  /-- A pattern that is neither text nor bytes. -/
  | patternType (type : String)
  /-- An empty column prefix. -/
  | emptyColumnPrefix
  /-- A column range whose ends are out of order. -/
  | startAfterStop (start stop : Value)
  /-- A list without members. -/
  | noMembers

/-- The message of a filter fault. -/
def FilterFault.message : FilterFault → Text
  | emptyPattern => "regular expression must not be empty"
  | notRepresentable pattern charset _ =>
    "regular expression " ++ pattern.quoted ++ " is not representable in " ++ charset
  | patternType type => "regular expression must be bytes or str, got " ++ type
  | emptyColumnPrefix => "column prefix must not be empty"
  | startAfterStop start stop =>
    "column range start " ++ start.quoted ++ " sorts after stop " ++ stop.quoted
  | noMembers => "filter list must contain at least one filter"

/-- Why an attribute cannot be changed. -/
inductive AttributeFault where
  /-- A write to an attribute of an object that never changes. -/
  | reassigned (type : String) (name : Text)
  /-- A removal from an object that never changes. -/
  | deleted (type : String) (name : Text)
  /-- A new attribute on an object with fixed fields. -/
  | absent (type : String) (name : Text)
  /-- A property without a way of writing it. -/
  | noSetter (property type : String)
  /-- A class without the field to write. -/
  | noField (owner : String) (field : Text)
  /-- A log level that no level has as its name. -/
  | unknownLevel (name : Text)

/-- The message of an attribute fault. -/
def AttributeFault.message : AttributeFault → Text
  | reassigned type name => type ++ " is immutable: cannot reassign " ++ name
  | deleted type name => type ++ " is immutable: cannot delete " ++ name
  | absent type name => "'" ++ type ++ "' object has no attribute '" ++ name ++ "'"
  | noSetter property type =>
    "property '" ++ property ++ "' of '" ++ type ++ "' object has no setter"
  | noField owner field => owner ++ " has no writable field " ++ field.quoted
  | unknownLevel name => "module 'logging' has no attribute '" ++ name ++ "'"

/-- What a failed call of the store was classified as. -/
inductive OperationFailure where
  /-- Any failure without a class of its own. -/
  | general
  /-- The table is missing. -/
  | tableNotFound
  /-- The family is missing. -/
  | noSuchColumnFamily
deriving DecidableEq

/-- A failure. -/
inductive Error where
  /-- A message at most. -/
  | plain (kind : PlainKind) (message : Option Text)
  /-- A value of the wrong kind or size. -/
  | misuse (fault : Misuse)
  /-- A failed conversion between text and bytes. -/
  | conversion (fault : Charset.Fault)
  /-- A conversion that failed inside a codec, with the inner failure as its cause. -/
  | codecFailure (fault : Charset.Fault)
  /-- A pattern that is no regular expression. -/
  | pattern (fault : Pattern.Fault)
  /-- A request that does not validate. -/
  | request (fault : RequestFault)
  /-- A filter that cannot be represented. -/
  | filter (fault : FilterFault)
  /-- An attribute that cannot be changed. -/
  | access (fault : AttributeFault)
  /-- A field of a frozen record. -/
  | frozenField (name : Text)
  /-- A slot written on an object of a class that does not have it. -/
  | foreignSlot (slot owner type : String)
  /-- A charset that is unknown or no conversion; `found` says that a failed look-up led here. -/
  | unsupportedEncoding (encoding : Value) (detail : Option Text) (found : Bool)
  /-- A write beyond the bound on outstanding writes. -/
  | bufferFull (pending capacity : Int)
  /-- A request after closing; `raced` says that only the shut-down pool refused it. -/
  | closed (kind : RequestKind) (raced : Bool)
  /-- Work for a pool that was shut down. -/
  | poolShutDown
  /-- A filter that cannot be converted. -/
  | filterConversion (filterKind : Bytes) (reason : PatchFailure) (cause : Option Error)
  /-- A failed call of the store. -/
  | operation (failure : OperationFailure) (kind : RequestKind) (table key : Bytes) (cause : Error)
    (retryable : Bool)
  /-- A call that failed on every attempt; `raised` says that the retry loop raised this from the
  last failure, rather than a caller building it. -/
  | exhausted (attempts : Int) (last : Error) (raised : Bool)
  /-- An error that was raised again after the last attempt. -/
  | reraised (error : Error)
  /-- A flush with failed members, in the order of the members. -/
  | flushFailed (failures : List Error)
  /-- An expired wait for a deferred result. -/
  | deferredTimeout (bound : Number)
  /-- A second completion of a deferred result. -/
  | doubleCompletion (state : DeferredState) (attempted : Text)
  /-- A question for the outcome of a pending deferred result. -/
  | stillPending
  /-- The store has no such table. -/
  | tableNotFound (table : Bytes)
  /-- The store has that table already. -/
  | tableExists (table : Bytes)
  /-- The table has no such family. -/
  | noSuchColumnFamily (table family : Bytes)
  /-- An error of the store that says of itself whether it may pass, whatever its class says. -/
  | flagged (failure : OperationFailure) (message : Text) (retryable : Bool)
  /-- Something that is no request. -/
  | unknownRequest (type : String)
  /-- A clock that would run backwards. -/
  | negativeAdvance (seconds : Number)
  /-- A retry policy without any attempt. -/
  | noAttempts
  /-- Settings that do not validate. -/
  | invalidSettings (title : String) (issues : List Issue)
  /-- A settings file that is not there. -/
  | missingFile (path : Text)
  /-- A name that no deferred result was stored under. -/
  | unknownDeferred (name : Text)
  /-- A wait without bound on a pending deferred result. -/
  | wouldBlock

namespace Error

instance : Inhabited Error := ⟨.wouldBlock⟩

/-- The class of a conversion fault. -/
def conversionKind (fault : Charset.Fault) : ErrorKind :=
  match fault.family with
  | .encode => .unicodeEncode
  | .decode => .unicodeDecode
  | .lookup => .lookup
  | .type => .type
  | .unicode => .unicode

/-- The class of a pattern fault. -/
def patternKind (fault : Pattern.Fault) : ErrorKind :=
  match fault.family with
  | .pattern => .pattern
  | .overflow => .overflow
  | .value => .value

/-- The class of a misuse. -/
def misuseKind (fault : Misuse) : ErrorKind :=
  match fault.family with
  | .type => .type
  | .value => .value
  | .attribute => .access
  | .overflow => .overflow

/-- The class of an error. -/
def kind : Error → ErrorKind
  | plain kind _ => kind.kind
  | misuse fault => misuseKind fault
  | conversion fault | codecFailure fault => conversionKind fault
  | pattern fault => patternKind fault
  | request _ => .invalidRequest
  | filter _ => .invalidFilter
  | access _ => .access
  | frozenField _ => .frozenInstance
  | foreignSlot .. => .type
  | unsupportedEncoding .. => .unsupportedEncoding
  | bufferFull .. => .bufferFull
  | closed .. => .clientClosed
  | poolShutDown => .runtime
  | filterConversion .. => .filterConversion
  | operation .general .. => .backendOperation
  | operation .tableNotFound .. => .tableNotFoundError
  | operation .noSuchColumnFamily .. => .noSuchColumnFamilyError
  | exhausted .. => .retriesExhausted
  | reraised error => error.kind
  | flushFailed _ => .flushFailed
  | deferredTimeout _ => .deferredTimeout
  | doubleCompletion .. => .doubleCompletion
  | stillPending => .runtime
  | tableNotFound _ => .tableNotFound
  | tableExists _ => .tableExists
  | noSuchColumnFamily .. => .noSuchColumnFamily
  | flagged .general .. => .backend
  | flagged .tableNotFound .. => .tableNotFound
  | flagged .noSuchColumnFamily .. => .noSuchColumnFamily
  | unknownRequest _ => .type
  | negativeAdvance _ | noAttempts => .value
  | invalidSettings .. => .validation
  | missingFile _ => .fileNotFound
  | unknownDeferred _ => .unknownDeferred
  | wouldBlock => .wouldBlock

/-- The facts of a failed call of the store: operation, table, row key, cause and whether trying
again may help. -/
structure OperationFacts where
  /-- The operation. -/
  kind : RequestKind
  /-- The table. -/
  table : Bytes
  /-- The row key, or the start key of a scan. -/
  key : Bytes
  /-- What the store raised. -/
  cause : Error
  /-- Whether the failure is transient. -/
  retryable : Bool

/-- The facts of an error that stands for a failed call of the store. An exhausted call has those of
its last failure and is never tried again. -/
def operation? : Error → Option OperationFacts
  | operation _ kind table key cause retryable => some ⟨kind, table, key, cause, retryable⟩
  | exhausted _ last _ => last.operation?.map fun facts => { facts with retryable := false }
  | reraised error => error.operation?
  | _ => none

/-- The error behind an error, by its class. -/
def cause? : Error → Option ErrorKind
  | codecFailure (.within _ _ fault) => some (conversionKind fault)
  | filter (.notRepresentable _ _ fault) => some (conversionKind fault)
  | unsupportedEncoding _ _ found => if found then some .lookup else none
  | closed _ raced => if raced then some .runtime else none
  | filterConversion _ _ cause => cause.map kind
  | operation _ _ _ _ cause _ => some cause.kind
  | exhausted _ last raised =>
    if raised then some last.kind else last.operation?.map fun facts => facts.cause.kind
  | reraised _ => some .retry
  | _ => none

/-- The quoted form of an error with the given message: its class and, in parentheses, what it was
built from. -/
def quotedWith (message : Text) : Error → Text
  | plain kind none => kind.kind.name ++ "()"
  | plain kind (some text) => kind.kind.name ++ "(" ++ text.quoted ++ ")"
  | reraised error => error.quotedWith message
  | conversion (.encode codec text start stop reason) =>
    "UnicodeEncodeError('" ++ codec ++ "', " ++ text.quoted ++ ", " ++ Text.ofNat start ++ ", " ++
      Text.ofNat stop ++ ", '" ++ reason ++ "')"
  | conversion (.decode codec data start stop reason) =>
    "UnicodeDecodeError('" ++ codec ++ "', " ++ data.quoted ++ ", " ++ Text.ofNat start ++ ", " ++
      Text.ofNat stop ++ ", '" ++ reason ++ "')"
  | error => error.kind.name ++ "(" ++ message.quoted ++ ")"

mutual

/-- The message of an error. -/
def message : Error → Text
  | plain .key (some text) => text.quoted
  | plain _ text => text.getD []
  | misuse fault => fault.message
  | conversion fault | codecFailure fault => fault.message
  | pattern fault => fault.message
  | request fault => fault.message
  | filter fault => fault.message
  | access fault => fault.message
  | frozenField name => "cannot assign to field '" ++ name ++ "'"
  | foreignSlot slot owner type =>
    "descriptor '" ++ slot ++ "' for '" ++ owner ++ "' objects doesn't apply to a '" ++ type ++
      "' object"
  | unsupportedEncoding encoding detail _ =>
    let known : Text := "Unsupported encoding: " ++ encoding.quoted
    match detail with
    | none | some [] => known
    | some detail => known ++ " (" ++ detail ++ ")"
  | bufferFull pending capacity =>
    "Write buffer full: " ++ Text.ofInt pending ++ " writes outstanding (capacity " ++
      Text.ofInt capacity ++ ")"
  | closed kind _ => "Cannot submit " ++ kind.name ++ ": client is closed"
  | poolShutDown => "cannot schedule new futures after shutdown"
  | filterConversion filterKind reason cause =>
    "Cannot translate " ++ Charset.readUtf8Leniently filterKind ++ " into a backend filter: " ++
      reason.name ++ " (" ++ quotedCause cause ++ ")"
  | operation _ kind table key cause _ =>
    kind.name ++ " on table " ++ table.quoted ++ " row " ++ key.quoted ++ " failed: " ++
      cause.message
  | exhausted attempts last _ =>
    "Gave up after " ++ Text.ofInt attempts ++ " attempts: " ++ last.message
  | reraised error => error.message
  | flushFailed failures =>
    Text.ofNat failures.length ++ " request(s) failed during flush; first: " ++
      firstMessage failures
  | deferredTimeout bound => "Deferred not completed within " ++ bound.render ++ "s"
  | doubleCompletion state attempted =>
    "Cannot " ++ attempted ++ " a Deferred that is already " ++ state.name
  | stillPending => "Deferred is still pending"
  | tableNotFound table => "Table not found: " ++ table.quoted
  | tableExists table => "Table already exists: " ++ table.quoted
  | noSuchColumnFamily table family =>
    "Column family " ++ family.quoted ++ " does not exist in table " ++ table.quoted
  | flagged _ message _ => message
  | unknownRequest type => "Unknown request type: " ++ type
  | negativeAdvance seconds => "Cannot advance time by negative amount: " ++ seconds.render
  | noAttempts => "max_attempts must be >= 1"
  | invalidSettings title issues =>
    Text.ofNat issues.length ++ " validation errors for " ++ title
  | missingFile path => "Config file not found: " ++ path
  | unknownDeferred name => name
  | wouldBlock => "waiting forever on a pending Deferred"

/-- The message of the first error, or the spelling of absence. -/
def firstMessage : List Error → Text
  | [] => "None"
  | error :: _ => error.message

/-- The quoted form of a cause, or the spelling of absence. -/
def quotedCause : Option Error → Text
  | none => "None"
  | some error => error.quotedWith error.message

end

/-- The quoted form of an error. -/
def quoted (error : Error) : Text := error.quotedWith error.message

end Error
end WideColumn
