/-!
# Reserved names

Names that the generated program cannot take from a schema as they are.

## What is here

* `keywords` — the keywords of the generated language.
* `builtins` — the names that it predefines, apart from those that start with an underscore.
* `moduleNames` — the names that every generated program binds at its top level.
* `modelNames` — the names that a generated model reserves for its own members, and the names of the
  types that its attributes are annotated with.
-/

set_option autoImplicit false

namespace EntityService.Names

/-- The keywords of the generated language. -/
def keywords : List String :=
  ["False", "None", "True", "and", "as", "assert", "async", "await", "break", "class", "continue",
    "def", "del", "elif", "else", "except", "finally", "for", "from", "global", "if", "import",
    "in", "is", "lambda", "nonlocal", "not", "or", "pass", "raise", "return", "try", "while",
    "with", "yield"]

/-- The names that the generated language predefines. -/
def builtins : List String :=
  ["ArithmeticError", "AssertionError", "AttributeError", "BaseException", "BaseExceptionGroup",
    "BlockingIOError", "BrokenPipeError", "BufferError", "BytesWarning", "ChildProcessError",
    "ConnectionAbortedError", "ConnectionError", "ConnectionRefusedError", "ConnectionResetError",
    "DeprecationWarning", "EOFError", "Ellipsis", "EncodingWarning", "EnvironmentError",
    "Exception", "ExceptionGroup", "False", "FileExistsError", "FileNotFoundError",
    "FloatingPointError", "FutureWarning", "GeneratorExit", "IOError", "ImportError",
    "ImportWarning", "IndentationError", "IndexError", "InterruptedError", "IsADirectoryError",
    "KeyError", "KeyboardInterrupt", "LookupError", "MemoryError", "ModuleNotFoundError",
    "NameError", "None", "NotADirectoryError", "NotImplemented", "NotImplementedError", "OSError",
    "OverflowError", "PendingDeprecationWarning", "PermissionError", "ProcessLookupError",
    "RecursionError", "ReferenceError", "ResourceWarning", "RuntimeError", "RuntimeWarning",
    "StopAsyncIteration", "StopIteration", "SyntaxError", "SyntaxWarning", "SystemError",
    "SystemExit", "TabError", "TimeoutError", "True", "TypeError", "UnboundLocalError",
    "UnicodeDecodeError", "UnicodeEncodeError", "UnicodeError", "UnicodeTranslateError",
    "UnicodeWarning", "UserWarning", "ValueError", "Warning", "ZeroDivisionError", "abs", "aiter",
    "all", "anext", "any", "ascii", "bin", "bool", "breakpoint", "bytearray", "bytes", "callable",
    "chr", "classmethod", "compile", "complex", "copyright", "credits", "delattr", "dict", "dir",
    "divmod", "enumerate", "eval", "exec", "exit", "filter", "float", "format", "frozenset",
    "getattr", "globals", "hasattr", "hash", "help", "hex", "id", "input", "int", "isinstance",
    "issubclass", "iter", "len", "license", "list", "locals", "map", "max", "memoryview", "min",
    "next", "object", "oct", "open", "ord", "pow", "print", "property", "quit", "range", "repr",
    "reversed", "round", "set", "setattr", "slice", "sorted", "staticmethod", "str", "sum",
    "super", "tuple", "type", "vars", "zip"]

/-- The names that every generated program binds at its top level. -/
def moduleNames : List String :=
  ["annotations", "contextlib", "datetime", "logging", "asyncpg", "uvicorn", "FastAPI", "Request",
    "JSONResponse", "BaseModel", "ConfigDict", "Field", "DATABASE_URL", "HOST", "PORT",
    "MAX_CONNECTIONS", "logger", "AppError", "app_error_handler", "postgres_error_handler",
    "CREATE_TABLE_STATEMENTS", "init_tables", "lifespan", "build_app", "app", "main"]

/-- The names that a generated model needs for itself. -/
def modelNames : List String :=
  ["copy", "dict", "json", "schema", "schema_json", "construct", "validate", "parse_obj",
    "parse_raw", "parse_file", "from_orm", "update_forward_refs", "int", "float", "str", "bool",
    "datetime"]

end EntityService.Names
