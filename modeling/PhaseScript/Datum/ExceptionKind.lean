/-
The kinds of exception, each under the more general kind it belongs to.
-/
set_option autoImplicit false

namespace PhaseScript

/-- A kind of exception. -/
inductive ExceptionKind where
  | baseException
  | exception
  | systemExit
  | keyboardInterrupt
  | generatorExit
  | arithmeticError
  | floatingPointError
  | overflowError
  | zeroDivisionError
  | assertionError
  | attributeError
  | bufferError
  | eofError
  | importError
  | moduleNotFoundError
  | lookupError
  | indexError
  | keyError
  | memoryError
  | nameError
  | unboundLocalError
  | osError
  | blockingIOError
  | childProcessError
  | connectionError
  | brokenPipeError
  | connectionAbortedError
  | connectionRefusedError
  | connectionResetError
  | fileExistsError
  | fileNotFoundError
  | interruptedError
  | isADirectoryError
  | notADirectoryError
  | permissionError
  | processLookupError
  | timeoutError
  | referenceError
  | runtimeError
  | notImplementedError
  | recursionError
  | stopIteration
  | stopAsyncIteration
  | syntaxError
  | indentationError
  | tabError
  | systemError
  | typeError
  | valueError
  | unicodeError
  | unicodeDecodeError
  | unicodeEncodeError
  | unicodeTranslateError
  | warning
  | bytesWarning
  | deprecationWarning
  | encodingWarning
  | futureWarning
  | importWarning
  | pendingDeprecationWarning
  | resourceWarning
  | runtimeWarning
  | syntaxWarning
  | unicodeWarning
  | userWarning
  | jsonDecodeError
  | patternError
  | validationError
  | pluginRuntimeError
  | decodeError
  | evaluationError
  | handlerError
  | rpcError
  | storageError
  | httpError
  | requestError
  | transportError
  | timeoutException
  | connectTimeout
  | readTimeout
  | writeTimeout
  | poolTimeout
  | networkError
  | connectError
  | readError
  | writeError
  | closeError
  | protocolError
  | localProtocolError
  | remoteProtocolError
  | proxyError
  | unsupportedProtocol
  | decodingError
  | tooManyRedirects
  | httpStatusError
  | invalidURL
  | cookieConflict
  | redisError
  | invalidOperation
  deriving DecidableEq, Repr, Inhabited

namespace ExceptionKind

/-- Every kind, general kinds before special ones. -/
def all : List ExceptionKind :=
  [.baseException, .exception, .systemExit, .keyboardInterrupt, .generatorExit,
    .arithmeticError, .floatingPointError, .overflowError, .zeroDivisionError, .assertionError,
    .attributeError, .bufferError, .eofError, .importError, .moduleNotFoundError, .lookupError,
    .indexError, .keyError, .memoryError, .nameError, .unboundLocalError, .osError,
    .blockingIOError, .childProcessError, .connectionError, .brokenPipeError,
    .connectionAbortedError, .connectionRefusedError, .connectionResetError, .fileExistsError,
    .fileNotFoundError, .interruptedError, .isADirectoryError, .notADirectoryError,
    .permissionError, .processLookupError, .timeoutError, .referenceError, .runtimeError,
    .notImplementedError, .recursionError, .stopIteration, .stopAsyncIteration, .syntaxError,
    .indentationError, .tabError, .systemError, .typeError, .valueError, .unicodeError,
    .unicodeDecodeError, .unicodeEncodeError, .unicodeTranslateError, .warning, .bytesWarning,
    .deprecationWarning, .encodingWarning, .futureWarning, .importWarning,
    .pendingDeprecationWarning, .resourceWarning, .runtimeWarning, .syntaxWarning,
    .unicodeWarning, .userWarning, .jsonDecodeError, .patternError, .validationError,
    .pluginRuntimeError, .decodeError, .evaluationError, .handlerError, .rpcError,
    .storageError, .httpError, .requestError, .transportError, .timeoutException,
    .connectTimeout, .readTimeout, .writeTimeout, .poolTimeout, .networkError, .connectError,
    .readError, .writeError, .closeError, .protocolError, .localProtocolError,
    .remoteProtocolError, .proxyError, .unsupportedProtocol, .decodingError, .tooManyRedirects,
    .httpStatusError, .invalidURL, .cookieConflict, .redisError, .invalidOperation]

/-- The name of a kind, as an error shows it. -/
def name : ExceptionKind → String
  | .baseException => "BaseException"
  | .exception => "Exception"
  | .systemExit => "SystemExit"
  | .keyboardInterrupt => "KeyboardInterrupt"
  | .generatorExit => "GeneratorExit"
  | .arithmeticError => "ArithmeticError"
  | .floatingPointError => "FloatingPointError"
  | .overflowError => "OverflowError"
  | .zeroDivisionError => "ZeroDivisionError"
  | .assertionError => "AssertionError"
  | .attributeError => "AttributeError"
  | .bufferError => "BufferError"
  | .eofError => "EOFError"
  | .importError => "ImportError"
  | .moduleNotFoundError => "ModuleNotFoundError"
  | .lookupError => "LookupError"
  | .indexError => "IndexError"
  | .keyError => "KeyError"
  | .memoryError => "MemoryError"
  | .nameError => "NameError"
  | .unboundLocalError => "UnboundLocalError"
  | .osError => "OSError"
  | .blockingIOError => "BlockingIOError"
  | .childProcessError => "ChildProcessError"
  | .connectionError => "ConnectionError"
  | .brokenPipeError => "BrokenPipeError"
  | .connectionAbortedError => "ConnectionAbortedError"
  | .connectionRefusedError => "ConnectionRefusedError"
  | .connectionResetError => "ConnectionResetError"
  | .fileExistsError => "FileExistsError"
  | .fileNotFoundError => "FileNotFoundError"
  | .interruptedError => "InterruptedError"
  | .isADirectoryError => "IsADirectoryError"
  | .notADirectoryError => "NotADirectoryError"
  | .permissionError => "PermissionError"
  | .processLookupError => "ProcessLookupError"
  | .timeoutError => "TimeoutError"
  | .referenceError => "ReferenceError"
  | .runtimeError => "RuntimeError"
  | .notImplementedError => "NotImplementedError"
  | .recursionError => "RecursionError"
  | .stopIteration => "StopIteration"
  | .stopAsyncIteration => "StopAsyncIteration"
  | .syntaxError => "SyntaxError"
  | .indentationError => "IndentationError"
  | .tabError => "TabError"
  | .systemError => "SystemError"
  | .typeError => "TypeError"
  | .valueError => "ValueError"
  | .unicodeError => "UnicodeError"
  | .unicodeDecodeError => "UnicodeDecodeError"
  | .unicodeEncodeError => "UnicodeEncodeError"
  | .unicodeTranslateError => "UnicodeTranslateError"
  | .warning => "Warning"
  | .bytesWarning => "BytesWarning"
  | .deprecationWarning => "DeprecationWarning"
  | .encodingWarning => "EncodingWarning"
  | .futureWarning => "FutureWarning"
  | .importWarning => "ImportWarning"
  | .pendingDeprecationWarning => "PendingDeprecationWarning"
  | .resourceWarning => "ResourceWarning"
  | .runtimeWarning => "RuntimeWarning"
  | .syntaxWarning => "SyntaxWarning"
  | .unicodeWarning => "UnicodeWarning"
  | .userWarning => "UserWarning"
  | .jsonDecodeError => "JSONDecodeError"
  | .patternError => "error"
  | .validationError => "ValidationError"
  | .pluginRuntimeError => "PluginRuntimeError"
  | .decodeError => "DecodeError"
  | .evaluationError => "EvaluationError"
  | .handlerError => "HandlerError"
  | .rpcError => "RpcError"
  | .storageError => "StorageError"
  | .httpError => "HTTPError"
  | .requestError => "RequestError"
  | .transportError => "TransportError"
  | .timeoutException => "TimeoutException"
  | .connectTimeout => "ConnectTimeout"
  | .readTimeout => "ReadTimeout"
  | .writeTimeout => "WriteTimeout"
  | .poolTimeout => "PoolTimeout"
  | .networkError => "NetworkError"
  | .connectError => "ConnectError"
  | .readError => "ReadError"
  | .writeError => "WriteError"
  | .closeError => "CloseError"
  | .protocolError => "ProtocolError"
  | .localProtocolError => "LocalProtocolError"
  | .remoteProtocolError => "RemoteProtocolError"
  | .proxyError => "ProxyError"
  | .unsupportedProtocol => "UnsupportedProtocol"
  | .decodingError => "DecodingError"
  | .tooManyRedirects => "TooManyRedirects"
  | .httpStatusError => "HTTPStatusError"
  | .invalidURL => "InvalidURL"
  | .cookieConflict => "CookieConflict"
  | .redisError => "RedisError"
  | .invalidOperation => "InvalidOperation"

/-- The kind that a kind is a special case of. -/
def parent : ExceptionKind → Option ExceptionKind
  | .baseException => none
  | .exception => some .baseException
  | .systemExit => some .baseException
  | .keyboardInterrupt => some .baseException
  | .generatorExit => some .baseException
  | .arithmeticError => some .exception
  | .floatingPointError => some .arithmeticError
  | .overflowError => some .arithmeticError
  | .zeroDivisionError => some .arithmeticError
  | .assertionError => some .exception
  | .attributeError => some .exception
  | .bufferError => some .exception
  | .eofError => some .exception
  | .importError => some .exception
  | .moduleNotFoundError => some .importError
  | .lookupError => some .exception
  | .indexError => some .lookupError
  | .keyError => some .lookupError
  | .memoryError => some .exception
  | .nameError => some .exception
  | .unboundLocalError => some .nameError
  | .osError => some .exception
  | .blockingIOError => some .osError
  | .childProcessError => some .osError
  | .connectionError => some .osError
  | .brokenPipeError => some .connectionError
  | .connectionAbortedError => some .connectionError
  | .connectionRefusedError => some .connectionError
  | .connectionResetError => some .connectionError
  | .fileExistsError => some .osError
  | .fileNotFoundError => some .osError
  | .interruptedError => some .osError
  | .isADirectoryError => some .osError
  | .notADirectoryError => some .osError
  | .permissionError => some .osError
  | .processLookupError => some .osError
  | .timeoutError => some .osError
  | .referenceError => some .exception
  | .runtimeError => some .exception
  | .notImplementedError => some .runtimeError
  | .recursionError => some .runtimeError
  | .stopIteration => some .exception
  | .stopAsyncIteration => some .exception
  | .syntaxError => some .exception
  | .indentationError => some .syntaxError
  | .tabError => some .indentationError
  | .systemError => some .exception
  | .typeError => some .exception
  | .valueError => some .exception
  | .unicodeError => some .valueError
  | .unicodeDecodeError => some .unicodeError
  | .unicodeEncodeError => some .unicodeError
  | .unicodeTranslateError => some .unicodeError
  | .warning => some .exception
  | .bytesWarning => some .warning
  | .deprecationWarning => some .warning
  | .encodingWarning => some .warning
  | .futureWarning => some .warning
  | .importWarning => some .warning
  | .pendingDeprecationWarning => some .warning
  | .resourceWarning => some .warning
  | .runtimeWarning => some .warning
  | .syntaxWarning => some .warning
  | .unicodeWarning => some .warning
  | .userWarning => some .warning
  | .jsonDecodeError => some .valueError
  | .patternError => some .exception
  | .validationError => some .valueError
  | .pluginRuntimeError => some .exception
  | .decodeError => some .pluginRuntimeError
  | .evaluationError => some .pluginRuntimeError
  | .handlerError => some .pluginRuntimeError
  | .rpcError => some .pluginRuntimeError
  | .storageError => some .rpcError
  | .httpError => some .exception
  | .requestError => some .httpError
  | .transportError => some .requestError
  | .timeoutException => some .transportError
  | .connectTimeout => some .timeoutException
  | .readTimeout => some .timeoutException
  | .writeTimeout => some .timeoutException
  | .poolTimeout => some .timeoutException
  | .networkError => some .transportError
  | .connectError => some .networkError
  | .readError => some .networkError
  | .writeError => some .networkError
  | .closeError => some .networkError
  | .protocolError => some .transportError
  | .localProtocolError => some .protocolError
  | .remoteProtocolError => some .protocolError
  | .proxyError => some .transportError
  | .unsupportedProtocol => some .transportError
  | .decodingError => some .requestError
  | .tooManyRedirects => some .requestError
  | .httpStatusError => some .httpError
  | .invalidURL => some .exception
  | .cookieConflict => some .exception
  | .redisError => some .exception
  | .invalidOperation => some .arithmeticError

/-- Whether a kind is another or a special case of it; no kind is more than eight steps from the root. -/
def isWithin (kind other : ExceptionKind) : Nat → Bool
  | 0 => false
  | steps + 1 => kind == other || match kind.parent with
    | some above => isWithin above other steps
    | none => false

/-- Whether a handler for `other` takes exceptions of this kind. -/
def is (kind other : ExceptionKind) : Bool := kind.isWithin other 8

/-- The kinds above a kind and itself, the nearest first, as far as so many steps go. -/
def lineageWithin (kind : ExceptionKind) : Nat → List ExceptionKind
  | 0 => []
  | steps + 1 => kind :: (match kind.parent with
    | some above => above.lineageWithin steps
    | none => [])

/-- A kind and those it is a special case of, the nearest first. -/
def lineage (kind : ExceptionKind) : List ExceptionKind := kind.lineageWithin 8

/-- The kind of a name. -/
def ofName? (name : String) : Option ExceptionKind :=
  if name == "IOError" || name == "EnvironmentError" then some .osError
  else all.find? (fun kind => kind.name == name)

/-- The special kind of system error that an error number selects. -/
def ofErrorNumber? : Int → Option ExceptionKind
  | 1 | 13 => some .permissionError
  | 2 => some .fileNotFoundError
  | 3 => some .processLookupError
  | 4 => some .interruptedError
  | 10 => some .childProcessError
  | 11 | 114 | 115 => some .blockingIOError
  | 17 => some .fileExistsError
  | 20 => some .notADirectoryError
  | 21 => some .isADirectoryError
  | 32 | 108 => some .brokenPipeError
  | 103 => some .connectionAbortedError
  | 104 => some .connectionResetError
  | 110 => some .timeoutError
  | 111 => some .connectionRefusedError
  | _ => none

end ExceptionKind

end PhaseScript
