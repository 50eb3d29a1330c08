import EvalSession.Documentation

/-!
# Documentation of the builtins

The names that the evaluated language has without an import, with the signatures known for them. Functions are
documented one by one, members of a type under the type, members of an exception together with it.
-/
namespace EvalSession.Documentation.Builtin

def functions : List (String × Option String) :=
  [("abs", some "(x, /)"), ("all", some "(iterable, /)"), ("any", some "(iterable, /)"),
  ("ascii", some "(obj, /)"), ("bin", some "(number, /)"), ("breakpoint", none), ("callable", some "(obj, /)"),
  ("chr", some "(i, /)"),
  ("compile", some "(source, filename, mode, flags=0, dont_inherit=False, optimize=-1, *, _feature_version=-1)"),
  ("delattr", some "(obj, name, /)"), ("dir", none), ("divmod", some "(x, y, /)"),
  ("eval", some "(source, globals=None, locals=None, /)"),
  ("exec", some "(source, globals=None, locals=None, /, *, closure=None)"),
  ("format", some "(value, format_spec='', /)"), ("getattr", none), ("globals", some "()"),
  ("hasattr", some "(obj, name, /)"), ("hash", some "(obj, /)"), ("hex", some "(number, /)"),
  ("id", some "(obj, /)"), ("input", some "(prompt='', /)"), ("isinstance", some "(obj, class_or_tuple, /)"),
  ("issubclass", some "(cls, class_or_tuple, /)"), ("iter", none), ("aiter", some "(async_iterable, /)"),
  ("len", some "(obj, /)"), ("locals", some "()"), ("max", none), ("min", none), ("next", none),
  ("anext", none), ("oct", some "(number, /)"), ("ord", some "(c, /)"), ("pow", some "(base, exp, mod=None)"),
  ("print", some "(*args, sep=' ', end='\\n', file=None, flush=False)"), ("repr", some "(obj, /)"),
  ("round", some "(number, ndigits=None)"), ("setattr", some "(obj, name, value, /)"),
  ("sorted", some "(iterable, /, *, key=None, reverse=False)"), ("sum", some "(iterable, /, start=0)"),
  ("vars", none), ("False", none), ("True", none),
  ("open", some "(file, mode='r', buffering=-1, encoding=None, errors=None, newline=None, closefd=True, opener=None)"),
  ("copyright", some "()"), ("credits", some "()"), ("license", some "()"), ("help", some "(*args, **kwds)")]

def types : List (String × Option String) :=
  [("bool", none), ("memoryview", some "(object)"), ("memoryview.release", some "(self, /)"),
  ("memoryview.tobytes", some "(self, /, order='C')"), ("memoryview.hex", none),
  ("memoryview.tolist", some "(self, /)"), ("memoryview.cast", none),
  ("memoryview.toreadonly", some "(self, /)"), ("memoryview.obj", none), ("memoryview.nbytes", none),
  ("memoryview.readonly", none), ("memoryview.itemsize", none), ("memoryview.format", none),
  ("memoryview.ndim", none), ("memoryview.shape", none), ("memoryview.strides", none),
  ("memoryview.suboffsets", none), ("memoryview.c_contiguous", none), ("memoryview.f_contiguous", none),
  ("memoryview.contiguous", none), ("bytearray", none), ("bytearray.append", some "(self, item, /)"),
  ("bytearray.capitalize", none), ("bytearray.center", some "(self, width, fillchar=b' ', /)"),
  ("bytearray.clear", some "(self, /)"), ("bytearray.copy", some "(self, /)"), ("bytearray.count", none),
  ("bytearray.decode", some "(self, /, encoding='utf-8', errors='strict')"), ("bytearray.endswith", none),
  ("bytearray.expandtabs", some "(self, /, tabsize=8)"),
  ("bytearray.extend", some "(self, iterable_of_ints, /)"), ("bytearray.find", none),
  ("bytearray.fromhex", some "(type, string, /)"), ("bytearray.hex", none), ("bytearray.index", none),
  ("bytearray.insert", some "(self, index, item, /)"), ("bytearray.isalnum", none),
  ("bytearray.isalpha", none), ("bytearray.isascii", none), ("bytearray.isdigit", none),
  ("bytearray.islower", none), ("bytearray.isspace", none), ("bytearray.istitle", none),
  ("bytearray.isupper", none), ("bytearray.join", some "(self, iterable_of_bytes, /)"),
  ("bytearray.ljust", some "(self, width, fillchar=b' ', /)"), ("bytearray.lower", none),
  ("bytearray.lstrip", some "(self, bytes=None, /)"), ("bytearray.maketrans", some "(frm, to, /)"),
  ("bytearray.partition", some "(self, sep, /)"), ("bytearray.pop", some "(self, index=-1, /)"),
  ("bytearray.remove", some "(self, value, /)"), ("bytearray.replace", some "(self, old, new, count=-1, /)"),
  ("bytearray.removeprefix", some "(self, prefix, /)"), ("bytearray.removesuffix", some "(self, suffix, /)"),
  ("bytearray.reverse", some "(self, /)"), ("bytearray.rfind", none), ("bytearray.rindex", none),
  ("bytearray.rjust", some "(self, width, fillchar=b' ', /)"), ("bytearray.rpartition", some "(self, sep, /)"),
  ("bytearray.rsplit", some "(self, /, sep=None, maxsplit=-1)"),
  ("bytearray.rstrip", some "(self, bytes=None, /)"),
  ("bytearray.split", some "(self, /, sep=None, maxsplit=-1)"),
  ("bytearray.splitlines", some "(self, /, keepends=False)"), ("bytearray.startswith", none),
  ("bytearray.strip", some "(self, bytes=None, /)"), ("bytearray.swapcase", none), ("bytearray.title", none),
  ("bytearray.translate", some "(self, table, /, delete=b'')"), ("bytearray.upper", none),
  ("bytearray.zfill", some "(self, width, /)"), ("bytes", none), ("bytes.capitalize", none),
  ("bytes.center", some "(self, width, fillchar=b' ', /)"), ("bytes.count", none),
  ("bytes.decode", some "(self, /, encoding='utf-8', errors='strict')"), ("bytes.endswith", none),
  ("bytes.expandtabs", some "(self, /, tabsize=8)"), ("bytes.find", none),
  ("bytes.fromhex", some "(type, string, /)"), ("bytes.hex", none), ("bytes.index", none),
  ("bytes.isalnum", none), ("bytes.isalpha", none), ("bytes.isascii", none), ("bytes.isdigit", none),
  ("bytes.islower", none), ("bytes.isspace", none), ("bytes.istitle", none), ("bytes.isupper", none),
  ("bytes.join", some "(self, iterable_of_bytes, /)"), ("bytes.ljust", some "(self, width, fillchar=b' ', /)"),
  ("bytes.lower", none), ("bytes.lstrip", some "(self, bytes=None, /)"),
  ("bytes.maketrans", some "(frm, to, /)"), ("bytes.partition", some "(self, sep, /)"),
  ("bytes.replace", some "(self, old, new, count=-1, /)"), ("bytes.removeprefix", some "(self, prefix, /)"),
  ("bytes.removesuffix", some "(self, suffix, /)"), ("bytes.rfind", none), ("bytes.rindex", none),
  ("bytes.rjust", some "(self, width, fillchar=b' ', /)"), ("bytes.rpartition", some "(self, sep, /)"),
  ("bytes.rsplit", some "(self, /, sep=None, maxsplit=-1)"), ("bytes.rstrip", some "(self, bytes=None, /)"),
  ("bytes.split", some "(self, /, sep=None, maxsplit=-1)"),
  ("bytes.splitlines", some "(self, /, keepends=False)"), ("bytes.startswith", none),
  ("bytes.strip", some "(self, bytes=None, /)"), ("bytes.swapcase", none), ("bytes.title", none),
  ("bytes.translate", some "(self, table, /, delete=b'')"), ("bytes.upper", none),
  ("bytes.zfill", some "(self, width, /)"), ("classmethod", none), ("complex", some "(real=0, imag=0)"),
  ("complex.conjugate", some "(self, /)"), ("complex.real", none), ("complex.imag", none), ("dict", none),
  ("dict.get", some "(self, key, default=None, /)"), ("dict.setdefault", some "(self, key, default=None, /)"),
  ("dict.pop", none), ("dict.popitem", some "(self, /)"), ("dict.keys", none), ("dict.items", none),
  ("dict.values", none), ("dict.update", none), ("dict.fromkeys", some "(type, iterable, value=None, /)"),
  ("dict.clear", none), ("dict.copy", none), ("enumerate", some "(iterable, start=0)"), ("filter", none),
  ("float", some "(x=0, /)"), ("float.conjugate", some "(self, /)"),
  ("float.as_integer_ratio", some "(self, /)"), ("float.fromhex", some "(type, string, /)"),
  ("float.hex", some "(self, /)"), ("float.is_integer", some "(self, /)"), ("float.real", none),
  ("float.imag", none), ("frozenset", none), ("frozenset.copy", none), ("frozenset.difference", none),
  ("frozenset.intersection", none), ("frozenset.isdisjoint", none), ("frozenset.issubset", none),
  ("frozenset.issuperset", none), ("frozenset.symmetric_difference", none), ("frozenset.union", none),
  ("property", some "(fget=None, fset=None, fdel=None, doc=None)"), ("property.getter", none),
  ("property.setter", none), ("property.deleter", none), ("int", none), ("int.conjugate", none),
  ("int.bit_length", some "(self, /)"), ("int.bit_count", some "(self, /)"),
  ("int.to_bytes", some "(self, /, length=1, byteorder='big', *, signed=False)"),
  ("int.from_bytes", some "(type, /, bytes, byteorder='big', *, signed=False)"),
  ("int.as_integer_ratio", some "(self, /)"), ("int.real", none), ("int.imag", none), ("int.numerator", none),
  ("int.denominator", none), ("list", some "(iterable=(), /)"), ("list.clear", some "(self, /)"),
  ("list.copy", some "(self, /)"), ("list.append", some "(self, object, /)"),
  ("list.insert", some "(self, index, object, /)"), ("list.extend", some "(self, iterable, /)"),
  ("list.pop", some "(self, index=-1, /)"), ("list.remove", some "(self, value, /)"),
  ("list.index", some "(self, value, start=0, stop=9223372036854775807, /)"),
  ("list.count", some "(self, value, /)"), ("list.reverse", some "(self, /)"),
  ("list.sort", some "(self, /, *, key=None, reverse=False)"), ("map", none), ("object", some "()"),
  ("range", none), ("range.count", none), ("range.index", none), ("reversed", some "(sequence, /)"),
  ("set", none), ("set.add", none), ("set.clear", none), ("set.copy", none), ("set.discard", none),
  ("set.difference", none), ("set.difference_update", none), ("set.intersection", none),
  ("set.intersection_update", none), ("set.isdisjoint", none), ("set.issubset", none),
  ("set.issuperset", none), ("set.pop", none), ("set.remove", none), ("set.symmetric_difference", none),
  ("set.symmetric_difference_update", none), ("set.union", none), ("set.update", none), ("slice", none),
  ("slice.indices", none), ("staticmethod", none), ("str", none),
  ("str.encode", some "(self, /, encoding='utf-8', errors='strict')"),
  ("str.replace", some "(self, old, new, count=-1, /)"),
  ("str.split", some "(self, /, sep=None, maxsplit=-1)"),
  ("str.rsplit", some "(self, /, sep=None, maxsplit=-1)"), ("str.join", some "(self, iterable, /)"),
  ("str.capitalize", some "(self, /)"), ("str.casefold", some "(self, /)"), ("str.title", some "(self, /)"),
  ("str.center", some "(self, width, fillchar=' ', /)"), ("str.count", none),
  ("str.expandtabs", some "(self, /, tabsize=8)"), ("str.find", none),
  ("str.partition", some "(self, sep, /)"), ("str.index", none),
  ("str.ljust", some "(self, width, fillchar=' ', /)"), ("str.lower", some "(self, /)"),
  ("str.lstrip", some "(self, chars=None, /)"), ("str.rfind", none), ("str.rindex", none),
  ("str.rjust", some "(self, width, fillchar=' ', /)"), ("str.rstrip", some "(self, chars=None, /)"),
  ("str.rpartition", some "(self, sep, /)"), ("str.splitlines", some "(self, /, keepends=False)"),
  ("str.strip", some "(self, chars=None, /)"), ("str.swapcase", some "(self, /)"),
  ("str.translate", some "(self, table, /)"), ("str.upper", some "(self, /)"), ("str.startswith", none),
  ("str.endswith", none), ("str.removeprefix", some "(self, prefix, /)"),
  ("str.removesuffix", some "(self, suffix, /)"), ("str.isascii", some "(self, /)"),
  ("str.islower", some "(self, /)"), ("str.isupper", some "(self, /)"), ("str.istitle", some "(self, /)"),
  ("str.isspace", some "(self, /)"), ("str.isdecimal", some "(self, /)"), ("str.isdigit", some "(self, /)"),
  ("str.isnumeric", some "(self, /)"), ("str.isalpha", some "(self, /)"), ("str.isalnum", some "(self, /)"),
  ("str.isidentifier", some "(self, /)"), ("str.isprintable", some "(self, /)"),
  ("str.zfill", some "(self, width, /)"), ("str.format", none), ("str.format_map", none),
  ("str.maketrans", none), ("super", none), ("tuple", some "(iterable=(), /)"),
  ("tuple.index", some "(self, value, start=0, stop=9223372036854775807, /)"),
  ("tuple.count", some "(self, value, /)"), ("type", none), ("type.mro", some "(self, /)"), ("zip", none)]

def exceptions : List String :=
  ["BaseException", "BaseException.with_traceback", "BaseException.add_note", "BaseExceptionGroup",
  "BaseExceptionGroup.message", "BaseExceptionGroup.exceptions", "Exception", "GeneratorExit",
  "KeyboardInterrupt", "SystemExit", "SystemExit.code", "ArithmeticError", "AssertionError", "AttributeError",
  "AttributeError.name", "AttributeError.obj", "BufferError", "EOFError", "ImportError", "ImportError.msg",
  "ImportError.name", "ImportError.path", "LookupError", "MemoryError", "NameError", "NameError.name",
  "OSError", "OSError.errno", "OSError.strerror", "OSError.filename", "OSError.filename2", "ReferenceError",
  "RuntimeError", "StopAsyncIteration", "StopIteration", "StopIteration.value", "SyntaxError",
  "SyntaxError.msg", "SyntaxError.filename", "SyntaxError.lineno", "SyntaxError.offset", "SyntaxError.text",
  "SyntaxError.end_lineno", "SyntaxError.end_offset", "SyntaxError.print_file_and_line", "SystemError",
  "TypeError", "ValueError", "Warning", "FloatingPointError", "OverflowError", "ZeroDivisionError",
  "BytesWarning", "DeprecationWarning", "EncodingWarning", "FutureWarning", "ImportWarning",
  "PendingDeprecationWarning", "ResourceWarning", "RuntimeWarning", "SyntaxWarning", "UnicodeWarning",
  "UserWarning", "BlockingIOError", "ChildProcessError", "ConnectionError", "FileExistsError",
  "FileNotFoundError", "InterruptedError", "IsADirectoryError", "NotADirectoryError", "PermissionError",
  "ProcessLookupError", "TimeoutError", "IndentationError", "IndexError", "KeyError", "ModuleNotFoundError",
  "NotImplementedError", "RecursionError", "UnboundLocalError", "UnicodeError", "BrokenPipeError",
  "ConnectionAbortedError", "ConnectionRefusedError", "ConnectionResetError", "TabError", "UnicodeDecodeError",
  "UnicodeDecodeError.encoding", "UnicodeDecodeError.object", "UnicodeDecodeError.start",
  "UnicodeDecodeError.end", "UnicodeDecodeError.reason", "UnicodeEncodeError", "UnicodeEncodeError.encoding",
  "UnicodeEncodeError.object", "UnicodeEncodeError.start", "UnicodeEncodeError.end",
  "UnicodeEncodeError.reason", "UnicodeTranslateError", "UnicodeTranslateError.encoding",
  "UnicodeTranslateError.object", "UnicodeTranslateError.start", "UnicodeTranslateError.end",
  "UnicodeTranslateError.reason", "ExceptionGroup", "EnvironmentError", "EnvironmentError.errno",
  "EnvironmentError.strerror", "EnvironmentError.filename", "EnvironmentError.filename2", "IOError",
  "IOError.errno", "IOError.strerror", "IOError.filename", "IOError.filename2"]

def library : String := "https://docs.python.org/3/library"

def functionUrl (name : String) : String := library ++ "/functions.html#" ++ name

/-- A type has a place among the functions, its members one among the standard types. -/
def typeUrl (name : String) : String :=
  if name.toList.contains '.' then library ++ "/stdtypes.html#" ++ name else functionUrl name

def exceptionUrl (name : String) : String :=
  library ++ "/exceptions.html#" ++ String.ofList (name.toList.takeWhile (· != '.'))

def entry (url : String → String) (name : String) (signature : Option String) : String × Object :=
  (name, ("url", .string (url name)) :: (signature.toList.map fun s => ("usage", .string (name ++ s))))

def index : Index where
  entries :=
    functions.map (fun f => entry functionUrl f.1 f.2) ++ types.map (fun t => entry typeUrl t.1 t.2) ++
      exceptions.map (fun e => entry exceptionUrl e none)

end EvalSession.Documentation.Builtin
