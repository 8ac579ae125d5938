import PhaseScript.Machine.Scope
import PhaseScript.Machine.MathFunctions
import PhaseScript.Text.Search
/-
The modules that a setting can put at a script's hand: what each of them shows. A name that no module has is passed over.
-/
set_option autoImplicit false

namespace PhaseScript.Machine

/-- What a module shows: values, and things that are made together with it. -/
structure ModuleContent where
  entries : List (Text × Value)
  made : List (Text × Cell) := []

/-- Modules by name, with what each shows. -/
abbrev ModuleShelf := Text → Option ModuleContent

/-- The names of the modules that are there but show nothing of use. -/
def bareModuleNames : List Text :=
  ([
    "__future__ _abc _aix_support _ast _asyncio _bisect _blake2 _bz2 _codecs _codecs_cn _codecs_hk _codecs_iso2022",
    "_codecs_jp _codecs_kr _codecs_tw _collections _collections_abc _compat_pickle _compression _contextvars _crypt",
    "_csv _ctypes _curses _curses_panel _datetime _dbm _decimal _elementtree _frozen_importlib",
    "_frozen_importlib_external _functools _gdbm _hashlib _heapq _imp _io _json _locale _lsprof _lzma _markupbase",
    "_md5 _multibytecodec _multiprocessing _opcode _operator _osx_support _pickle _posixshmem _posixsubprocess",
    "_py_abc _pydecimal _pyio _queue _random _sha1 _sha256 _sha3 _sha512 _signal _sitebuiltins _socket _sqlite3 _sre",
    "_ssl _stat _statistics _string _strptime _struct _symtable _thread _threading_local _tokenize _tracemalloc",
    "_typing _uuid _warnings _weakref _weakrefset _zoneinfo abc aifc antigravity argparse array ast asynchat asyncio",
    "asyncore atexit audioop base64 bdb binascii bisect builtins bz2 cProfile calendar cgi cgitb chunk cmath cmd code",
    "codecs codeop collections colorsys compileall concurrent configparser contextlib contextvars copy copyreg crypt",
    "csv ctypes curses dataclasses datetime dbm decimal difflib dis distutils doctest email encodings ensurepip enum",
    "errno faulthandler fcntl filecmp fileinput fnmatch fractions ftplib functools gc genericpath getopt getpass",
    "gettext glob graphlib grp gzip hashlib heapq hmac html http idlelib imaplib imghdr imp importlib inspect io",
    "ipaddress itertools json keyword lib2to3 linecache locale logging lzma mailbox mailcap marshal math mimetypes",
    "mmap modulefinder multiprocessing netrc nis nntplib ntpath nturl2path numbers opcode operator optparse os",
    "pathlib pdb pickle pickletools pipes pkgutil platform plistlib poplib posix posixpath pprint profile pstats pty",
    "pwd py_compile pyclbr pydoc pydoc_data pyexpat queue quopri random re readline reprlib resource rlcompleter",
    "runpy sched secrets select selectors shelve shlex shutil signal site smtpd smtplib sndhdr socket socketserver",
    "spwd sqlite3 sre_compile sre_constants sre_parse ssl stat statistics string stringprep struct subprocess sunau",
    "symtable sys sysconfig syslog tabnanny tarfile telnetlib tempfile termios textwrap this threading time timeit",
    "tkinter token tokenize tomllib trace traceback tracemalloc tty turtle turtledemo types typing unicodedata",
    "unittest urllib uu uuid venv warnings wave weakref webbrowser wsgiref xdrlib xml xmlrpc zipapp zipfile zipimport",
    "zlib zoneinfo"] : List Text).flatMap (Text.words none)

def jsonEntries : List (Text × Value) := [("loads", .builtin .jsonLoads), ("dumps", .builtin .jsonDumps),
  ("JSONDecodeError", .type (.exception .jsonDecodeError))]

def calendarEntries : List (Text × Value) := [("date", .type .date), ("datetime", .type .moment),
  ("time", .type .clock), ("timedelta", .type .duration), ("MINYEAR", .int 1), ("MAXYEAR", .int 9999)]

def letterEntries : List (Text × Value) := [("ascii_lowercase", .text "abcdefghijklmnopqrstuvwxyz"),
  ("ascii_uppercase", .text "ABCDEFGHIJKLMNOPQRSTUVWXYZ"),
  ("ascii_letters", .text "abcdefghijklmnopqrstuvwxyzABCDEFGHIJKLMNOPQRSTUVWXYZ"), ("digits", .text "0123456789"),
  ("hexdigits", .text "0123456789abcdefABCDEF"), ("octdigits", .text "01234567"),
  ("punctuation", .text "!\"#$%&'()*+,-./:;<=>?@[\\]^_`\x7b|\x7d~"), ("whitespace", .text " \t\n\r\x0b\x0c")]

/-- The core names as modules have them, but for those that write attributes. -/
def coreEntries : List (Text × Value) :=
  let readers := CoreFunction.everyOne.filter fun f => f != .setattr && f != .delattr
  [(("getattr" : Text), Value.builtin .anyAttribute)] ++ readers.map coreEntry ++ namedTypes.map typeEntry
    ++ namedExceptions.map exceptionEntry ++ systemErrorNames

/-- A module that is shown under another name than its own. -/
def shownModule (shown name : Text) (entries : List (Text × Value)) : Text × Cell := (shown, .module name entries)

/-- The modules that are there. The program itself is one of them. -/
def standardShelf : ModuleShelf := fun name =>
  if name.is "math" then some { entries := Run.mathEntries }
  else if name.is "json" then some { entries := jsonEntries }
  else if name.is "datetime" then some { entries := calendarEntries }
  else if name.is "string" then some { entries := letterEntries }
  else if name.is "codecs" then some { entries := [], made := [shownModule "builtins" "builtins" coreEntries] }
  else if name.is "plugin_runtime" then
    some { entries := [], made := [shownModule "engines" "plugin_runtime.engines" [typeEntry .session]] }
  else if bareModuleNames.contains name then some { entries := [] }
  else none

/-- The names in a setting: those that are plain names, in order. -/
def moduleNames (setting : Text) : List Text :=
  let isPlain (name : Text) : Bool :=
    match name with
    | [] => false
    | first :: rest =>
      let opens (p : Point) : Bool := p.isAsciiLetter || p.is '_'
      opens first && rest.all fun p => opens p || p.isAsciiDigit
  (Text.splitAtPoint ',' setting).map Text.strip |>.filter isPlain

namespace Run

/-- A new module, with what is made together with it. -/
def newModule (name : Text) (content : ModuleContent) : Run Value := do
  let made ← content.made.mapM fun (shown, cell) => do return (shown, ← alloc cell)
  alloc (.module name (content.entries ++ made))

/-- Puts the modules with these names among the global names. -/
def addModules (shelf : ModuleShelf) : List Text → Run Unit
  | [] => return ()
  | name :: rest => do
    match shelf name with
    | none => pure ()
    | some content => do
      let v ← newModule name content
      fun w => .ok () { w with globals := putNamed name v w.globals }
    addModules shelf rest

end Run

end PhaseScript.Machine
