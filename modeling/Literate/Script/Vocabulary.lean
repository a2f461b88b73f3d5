/-! Words with a fixed meaning in Python: reserved words, and the names that every script knows. -/

namespace Literate.Script

def reservedWords : List String := [
  "False", "None", "True", "and", "as", "assert", "async", "await", "break", "class", "continue",
  "def", "del", "elif", "else", "except", "finally", "for", "from", "global", "if", "import", "in",
  "is", "lambda", "nonlocal", "not", "or", "pass", "raise", "return", "try", "while", "with",
  "yield"]

/-- public names that need no import, those of an interactive session included -/
def builtinNames : List String := [
  "ArithmeticError", "AssertionError", "AttributeError", "BaseException", "BaseExceptionGroup",
  "BlockingIOError", "BrokenPipeError", "BufferError", "BytesWarning", "ChildProcessError",
  "ConnectionAbortedError", "ConnectionError", "ConnectionRefusedError", "ConnectionResetError",
  "DeprecationWarning", "EOFError", "Ellipsis", "EncodingWarning", "EnvironmentError", "Exception",
  "ExceptionGroup", "False", "FileExistsError", "FileNotFoundError", "FloatingPointError",
  "FutureWarning", "GeneratorExit", "IOError", "ImportError", "ImportWarning", "IndentationError",
  "IndexError", "InterruptedError", "IsADirectoryError", "KeyError", "KeyboardInterrupt",
  "LookupError", "MemoryError", "ModuleNotFoundError", "NameError", "None", "NotADirectoryError",
  "NotImplemented", "NotImplementedError", "OSError", "OverflowError", "PendingDeprecationWarning",
  "PermissionError", "ProcessLookupError", "RecursionError", "ReferenceError", "ResourceWarning",
  "RuntimeError", "RuntimeWarning", "StopAsyncIteration", "StopIteration", "SyntaxError",
  "SyntaxWarning", "SystemError", "SystemExit", "TabError", "TimeoutError", "True", "TypeError",
  "UnboundLocalError", "UnicodeDecodeError", "UnicodeEncodeError", "UnicodeError",
  "UnicodeTranslateError", "UnicodeWarning", "UserWarning", "ValueError", "Warning",
  "ZeroDivisionError", "abs", "aiter", "all", "anext", "any", "ascii", "bin", "bool", "breakpoint",
  "bytearray", "bytes", "callable", "chr", "classmethod", "compile", "complex", "copyright",
  "credits", "delattr", "dict", "dir", "divmod", "enumerate", "eval", "exec", "exit", "filter",
  "float", "format", "frozenset", "getattr", "globals", "hasattr", "hash", "help", "hex", "id",
  "input", "int", "isinstance", "issubclass", "iter", "len", "license", "list", "locals", "map",
  "max", "memoryview", "min", "next", "object", "oct", "open", "ord", "pow", "print", "property",
  "quit", "range", "repr", "reversed", "round", "set", "setattr", "slice", "sorted",
  "staticmethod", "str", "sum", "super", "tuple", "type", "vars", "zip"]

end Literate.Script
