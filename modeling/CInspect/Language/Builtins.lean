/-!
The functions the compiler knows by name.

Some are functions of the C library: a call of one that was never declared
declares it with the type the library gives it, with a warning naming that
type. The others belong to the compiler (`__builtin_expect`, `__sync_*`,
`__atomic_*`): they need no declaration and are declared silently, and,
having no address, may only be called.

Each entry's type is written in a compact code, read left to right: the
result, then each parameter, then `.` if more arguments may follow. A type
is a base letter after prefixes and before suffixes.

* Prefixes: `L` long (twice: long long, three times: 128 bits), `U`
  unsigned, `S` signed, `Z` a 32-bit integer, `W` a 64-bit one, `N` int,
  `I` an argument that must be a constant.
* Bases: `v` void, `b` _Bool, `c` char, `s` short, `i` int, `h` __fp16,
  `x` _Float16, `f` float, `d` double (long double after `L`, __float128
  after `LL`), `z` size_t, `Y` ptrdiff_t, `w` wchar_t, `p` pid_t, `a` the
  argument list of a variadic function, `A` that list as a parameter
  passed by address, `P` FILE, `J` jmp_buf (sigjmp_buf after `S`), `K`
  ucontext_t, `X` the complex type of the base that follows.
* Suffixes: `*` a pointer to what comes before, `C` const, `D` volatile,
  `R` restrict.

A type with no parameters that takes more arguments has no prototype. An
empty code means the compiler knows the name but gives it no type.

The attribute letters that matter here: `f` a library function, `r` never
returns, `t` a function the compiler checks by its own rules rather than by
its type, `U` pure and `c` const.
-/

namespace CInspect.Language

/-- A function the compiler knows by name: its type in the code above, its
attribute letters, and the header that declares it for a library function. -/
structure Builtin where
  name : String
  signature : String
  attributes : String
  header : Option String := none
deriving Inhabited, Repr

/-- Whether it is a function of the C library, declared with a warning
when used undeclared. -/
def Builtin.isLibrary (b : Builtin) : Bool := b.attributes.contains 'f'

/-- Whether it never returns. -/
def Builtin.neverReturns (b : Builtin) : Bool := b.attributes.contains 'r'

/-- Whether the compiler checks its calls by rules of its own. -/
def Builtin.customChecked (b : Builtin) : Bool := b.attributes.contains 't'

/-- The attribute the compiler gives the function that makes discarding
its result worth a warning: `pure` (letter `U`) for one that reads memory
and changes nothing, else `const` (letter `c`) for one that reads nothing
but its arguments. -/
def Builtin.resultAttr? (b : Builtin) : Option String :=
  if b.attributes.contains 'U' then some "pure"
  else if b.attributes.contains 'c' then some "const"
  else none

/-- A function of the compiler. -/
def compilerBuiltin (name signature attributes : String) : Builtin :=
  { name := name, signature := signature, attributes := attributes }

/-- A function of the C library declared in `header`. -/
def libraryBuiltin (name signature attributes header : String) : Builtin :=
  { name := name, signature := signature, attributes := attributes, header := some header }

/-- The code with each `d` of the floating type replaced by the code of
another floating type. -/
def floatingVariant (code float : String) : String :=
  String.join (code.toList.map fun ch => if ch == 'd' then float else ch.toString)

/-- The forms of a mathematical function for `double`, `float` and `long
double`, named with no suffix, `f` and `l`, each as a library function
and with the `__builtin_` prefix. `code` is written for `double`. -/
def mathFamily (header name code attributes : String) : List Builtin :=
  let forms := [("", "d"), ("f", "f"), ("l", "Ld")]
  forms.flatMap fun (suffix, float) =>
    let c := floatingVariant code float
    [compilerBuiltin ("__builtin_" ++ name ++ suffix) c ("F" ++ attributes),
     libraryBuiltin (name ++ suffix) c ("f" ++ attributes) header]

/-- The forms of a mathematical function whose code does not follow the
floating type by a plain replacement: each given whole. -/
def mathForms (header : String) (forms : List (String × String)) (attributes : String) :
    List Builtin :=
  forms.flatMap fun (name, c) =>
    [compilerBuiltin ("__builtin_" ++ name) c ("F" ++ attributes),
     libraryBuiltin name c ("f" ++ attributes) header]

/-- The functions of `<math.h>` and `<complex.h>`. -/
def mathBuiltins : List Builtin :=
  let m := mathFamily "math.h"
  let unaryErrno := ["acos", "acosh", "asin", "asinh", "atan", "atanh", "cos", "cosh", "erf",
    "erfc", "exp", "exp2", "expm1", "log", "log10", "log1p", "log2", "logb", "sin", "sinh",
    "sqrt", "tan", "tanh", "tgamma"]
  let unaryConst := ["cbrt", "ceil", "floor", "nearbyint", "rint", "round", "trunc"]
  let binaryErrno := ["atan2", "fdim", "fmod", "hypot", "nextafter", "pow", "remainder"]
  let binaryConst := ["copysign", "fmax", "fmin"]
  let complexUnary := ["cacos", "cacosh", "casin", "casinh", "catan", "catanh", "ccos", "ccosh",
    "cexp", "clog", "csin", "csinh", "csqrt", "ctan", "ctanh"]
  let c := mathFamily "complex.h"
  unaryErrno.flatMap (fun n => m n "dd" "ne") ++
  unaryConst.flatMap (fun n => m n "dd" "nc") ++
  binaryErrno.flatMap (fun n => m n "ddd" "ne") ++
  binaryConst.flatMap (fun n => m n "ddd" "nc") ++
  m "fabs" "dd" "nc" ++ m "fma" "dddd" "ne" ++ m "frexp" "ddi*" "n" ++ m "ldexp" "ddi" "ne" ++
  m "modf" "ddd*" "n" ++ m "nan" "dcC*" "nU" ++ m "lgamma" "dd" "n" ++
  m "ilogb" "id" "ne" ++ m "llrint" "LLid" "ne" ++ m "llround" "LLid" "ne" ++
  m "lrint" "Lid" "ne" ++ m "lround" "Lid" "ne" ++ m "remquo" "dddi*" "n" ++
  m "scalbln" "ddLi" "ne" ++ m "scalbn" "ddi" "ne" ++
  mathForms "math.h" [("nexttoward", "ddLd"), ("nexttowardf", "ffLd"), ("nexttowardl", "LdLdLd")] "ne" ++
  complexUnary.flatMap (fun n => c n "XdXd" "ne") ++
  c "cabs" "dXd" "ne" ++ c "carg" "dXd" "ne" ++ c "cimag" "dXd" "nc" ++ c "creal" "dXd" "nc" ++
  c "conj" "XdXd" "nc" ++ c "cproj" "XdXd" "nc" ++ c "cpow" "XdXdXd" "ne" ++
  [libraryBuiltin "finite" "id" "fnc" "math.h", libraryBuiltin "finitef" "if" "fnc" "math.h",
   libraryBuiltin "finitel" "iLd" "fnc" "math.h", libraryBuiltin "__finite" "id" "fnc" "math.h",
   libraryBuiltin "__finitef" "if" "fnc" "math.h", libraryBuiltin "__finitel" "iLd" "fnc" "math.h",
   libraryBuiltin "__sinpi" "dd" "fne" "math.h", libraryBuiltin "__sinpif" "ff" "fne" "math.h",
   libraryBuiltin "__cospi" "dd" "fne" "math.h", libraryBuiltin "__cospif" "ff" "fne" "math.h",
   libraryBuiltin "__tanpi" "dd" "fne" "math.h", libraryBuiltin "__tanpif" "ff" "fne" "math.h",
   libraryBuiltin "__exp10" "dd" "fne" "math.h", libraryBuiltin "__exp10f" "ff" "fne" "math.h"]

/-- The other functions of the C library the compiler knows. -/
def libraryBuiltins : List Builtin :=
  let lib := libraryBuiltin
  let std (n c a : String) := lib n c a "stdlib.h"
  let str (n c : String) := lib n c "f" "string.h"
  let stdio (n c a : String) := lib n c a "stdio.h"
  let ctype := ["isalnum", "isalpha", "isblank", "iscntrl", "isdigit", "isgraph", "islower",
    "isprint", "ispunct", "isspace", "isupper", "isxdigit", "tolower", "toupper"].map
      fun n => lib n "ii" "fnU" "ctype.h"
  [std "abort" "v" "fr", std "calloc" "v*zz" "f", std "exit" "vi" "fr", std "_Exit" "vi" "fr",
   std "malloc" "v*z" "f", std "realloc" "v*v*z" "f", std "free" "vv*" "f",
   std "strtod" "dcC*c**" "f", std "strtof" "fcC*c**" "f", std "strtold" "LdcC*c**" "f",
   std "strtol" "LicC*c**i" "f", std "strtoll" "LLicC*c**i" "f", std "strtoul" "ULicC*c**i" "f",
   std "strtoull" "ULLicC*c**i" "f", std "abs" "ii" "fnc", std "labs" "LiLi" "fnc",
   std "llabs" "LLiLLi" "fnc", std "alloca" "v*z" "f",
   str "memcpy" "v*v*vC*z", str "memcmp" "ivC*vC*z", str "memmove" "v*v*vC*z",
   str "strcpy" "c*c*cC*", str "strncpy" "c*c*cC*z", str "strcmp" "icC*cC*",
   str "strncmp" "icC*cC*z", str "strcat" "c*c*cC*", str "strncat" "c*c*cC*z",
   str "strxfrm" "zc*cC*z", str "memchr" "v*vC*iz", str "strchr" "c*cC*i",
   str "strcspn" "zcC*cC*", str "strpbrk" "c*cC*cC*", str "strrchr" "c*cC*i",
   str "strspn" "zcC*cC*", str "strstr" "c*cC*cC*", str "strtok" "c*c*cC*",
   str "memset" "v*v*iz", str "strerror" "c*i", str "strlen" "zcC*",
   str "memccpy" "v*v*vC*iz", str "mempcpy" "v*v*vC*z", str "stpcpy" "c*c*cC*",
   str "stpncpy" "c*c*cC*z", str "strdup" "c*cC*", str "strndup" "c*cC*z",
   str "strlcpy" "zc*cC*z", str "strlcat" "zc*cC*z",
   lib "index" "c*cC*i" "f" "strings.h", lib "rindex" "c*cC*i" "f" "strings.h",
   lib "bzero" "vv*z" "f" "strings.h", lib "bcmp" "ivC*vC*z" "f" "strings.h",
   lib "strcasecmp" "icC*cC*" "f" "strings.h", lib "strncasecmp" "icC*cC*z" "f" "strings.h",
   stdio "printf" "icC*." "fp:0:", stdio "fprintf" "iP*cC*." "fp:1:",
   stdio "snprintf" "ic*zcC*." "fp:2:", stdio "sprintf" "ic*cC*." "fp:1:",
   stdio "vprintf" "icC*a" "fP:0:", stdio "vfprintf" "iP*cC*a" "fP:1:",
   stdio "vsnprintf" "ic*zcC*a" "fP:2:", stdio "vsprintf" "ic*cC*a" "fP:1:",
   stdio "scanf" "icC*R." "fs:0:", stdio "fscanf" "iP*RcC*R." "fs:1:",
   stdio "sscanf" "icC*RcC*R." "fs:1:", stdio "vscanf" "icC*Ra" "fS:0:",
   stdio "vfscanf" "iP*RcC*Ra" "fS:1:", stdio "vsscanf" "icC*RcC*Ra" "fS:1:",
   stdio "fopen" "P*cC*cC*" "f", stdio "fread" "zv*zzP*" "f", stdio "fwrite" "zvC*zzP*" "f",
   lib "wcschr" "w*wC*w" "f" "wchar.h", lib "wcscmp" "iwC*wC*" "f" "wchar.h",
   lib "wcslen" "zwC*" "f" "wchar.h", lib "wcsncmp" "iwC*wC*z" "f" "wchar.h",
   lib "wmemchr" "w*wC*wz" "f" "wchar.h", lib "wmemcmp" "iwC*wC*z" "f" "wchar.h",
   lib "wmemcpy" "w*w*wC*z" "f" "wchar.h", lib "wmemmove" "w*w*wC*z" "f" "wchar.h",
   lib "setjmp" "iJ" "fjT" "setjmp.h", lib "longjmp" "vJi" "frT" "setjmp.h",
   lib "_setjmp" "iJ" "fjT" "setjmp.h", lib "__sigsetjmp" "iSJi" "fjT" "setjmp.h",
   lib "sigsetjmp" "iSJi" "fjT" "setjmp.h", lib "savectx" "iJ" "fjT" "setjmp.h",
   lib "getcontext" "iK*" "fjT" "setjmp.h", lib "_longjmp" "vJi" "frT" "setjmp.h",
   lib "siglongjmp" "vSJi" "frT" "setjmp.h",
   lib "_exit" "vi" "fr" "unistd.h", lib "vfork" "p" "fjT" "unistd.h",
   lib "memalign" "v*zz" "f" "malloc.h", lib "pthread_create" "" "fC<2,3>" "pthread.h",
   lib "_Block_object_assign" "vv*vC*iC" "f" "Blocks.h",
   lib "_Block_object_dispose" "vvC*iC" "f" "Blocks.h"] ++ ctype

/-- The compiler's own forms of library functions, and its other general
functions. -/
def generalBuiltins : List Builtin :=
  let b := compilerBuiltin
  let pre (n : String) := "__builtin_" ++ n
  let libForm (n c a : String) := b (pre n) c a
  [libForm "abs" "ii" "ncF", libForm "labs" "LiLi" "Fnc", libForm "llabs" "LLiLLi" "Fnc",
   libForm "copysignf16" "hhh" "ncF", libForm "copysignf128" "LLdLLdLLd" "ncF",
   libForm "fabsf16" "hh" "ncF", libForm "fabsf128" "LLdLLd" "ncF",
   libForm "fmodf16" "hhh" "Fne", libForm "fmodf128" "LLdLLdLLd" "Fne",
   libForm "powf16" "hhh" "Fne", libForm "powf128" "LLdLLdLLd" "Fne",
   libForm "atan2f128" "LLdLLdLLd" "Fne", libForm "frexpf128" "LLdLLdi*" "Fn",
   libForm "ldexpf128" "LLdLLdi" "Fne", libForm "modff128" "LLdLLdLLd*" "Fn",
   libForm "huge_val" "d" "nc", libForm "huge_valf" "f" "nc", libForm "huge_vall" "Ld" "nc",
   libForm "huge_valf128" "LLd" "nc", libForm "inf" "d" "nc", libForm "inff" "f" "nc",
   libForm "infl" "Ld" "nc", libForm "inff128" "LLd" "nc", libForm "nanf128" "LLdcC*" "FnU",
   libForm "nans" "dcC*" "FnU", libForm "nansf" "fcC*" "FnU", libForm "nansl" "LdcC*" "FnU",
   libForm "nansf128" "LLdcC*" "FnU", libForm "powi" "ddi" "Fnc", libForm "powif" "ffi" "Fnc",
   libForm "powil" "LdLdi" "Fnc",
   libForm "ceilf16" "hh" "Fnc", libForm "cosf16" "hh" "Fne", libForm "expf16" "hh" "Fne",
   libForm "exp2f16" "hh" "Fne", libForm "floorf16" "hh" "Fnc", libForm "fmaf16" "hhhh" "Fne",
   libForm "fmaxf16" "hhh" "Fnc", libForm "fminf16" "hhh" "Fnc", libForm "logf16" "hh" "Fne",
   libForm "log10f16" "hh" "Fne", libForm "log2f16" "hh" "Fne", libForm "rintf16" "hh" "Fnc",
   libForm "roundf16" "hh" "Fnc", libForm "sinf16" "hh" "Fne", libForm "sqrtf16" "hh" "Fne",
   libForm "truncf16" "hh" "Fnc",
   libForm "complex" "v." "nct",
   libForm "isgreater" "i." "Fnct", libForm "isgreaterequal" "i." "Fnct",
   libForm "isless" "i." "Fnct", libForm "islessequal" "i." "Fnct",
   libForm "islessgreater" "i." "Fnct", libForm "isunordered" "i." "Fnct",
   libForm "fpclassify" "iiiiii." "Fnct", libForm "isfinite" "i." "Fnct",
   libForm "isinf" "i." "Fnct", libForm "isinf_sign" "i." "Fnct", libForm "isnan" "i." "Fnct",
   libForm "isnormal" "i." "Fnct", libForm "signbit" "i." "Fnct", libForm "signbitf" "if" "Fnc",
   libForm "signbitl" "iLd" "Fnc",
   libForm "canonicalize" "dd" "nc", libForm "canonicalizef" "ff" "nc",
   libForm "canonicalizef16" "hh" "nc", libForm "canonicalizel" "LdLd" "nc",
   libForm "flt_rounds" "i" "nc", libForm "clzs" "iUs" "nc", libForm "clz" "iUi" "nc", libForm "clzl" "iULi" "nc",
   libForm "clzll" "iULLi" "nc", libForm "ctzs" "iUs" "nc", libForm "ctz" "iUi" "nc",
   libForm "ctzl" "iULi" "nc", libForm "ctzll" "iULLi" "nc", libForm "ffs" "ii" "Fnc",
   libForm "ffsl" "iLi" "Fnc", libForm "ffsll" "iLLi" "Fnc", libForm "parity" "iUi" "nc",
   libForm "parityl" "iULi" "nc", libForm "parityll" "iULLi" "nc",
   libForm "popcount" "iUi" "nc", libForm "popcountl" "iULi" "nc",
   libForm "popcountll" "iULLi" "nc", libForm "clrsb" "ii" "nc", libForm "clrsbl" "iLi" "nc",
   libForm "clrsbll" "iLLi" "nc",
   libForm "bswap16" "UsUs" "nc", libForm "bswap32" "UZiUZi" "nc", libForm "bswap64" "UWiUWi" "nc",
   libForm "bitreverse8" "UcUc" "nc", libForm "bitreverse16" "UsUs" "nc",
   libForm "bitreverse32" "UZiUZi" "nc", libForm "bitreverse64" "UWiUWi" "nc",
   libForm "rotateleft8" "UcUcUc" "nc", libForm "rotateleft16" "UsUsUs" "nc",
   libForm "rotateleft32" "UZiUZiUZi" "nc", libForm "rotateleft64" "UWiUWiUWi" "nc",
   libForm "rotateright8" "UcUcUc" "nc", libForm "rotateright16" "UsUsUs" "nc",
   libForm "rotateright32" "UZiUZiUZi" "nc", libForm "rotateright64" "UWiUWiUWi" "nc",
   libForm "calloc" "v*zz" "nF", libForm "constant_p" "i." "nctu",
   libForm "classify_type" "i." "nctu", libForm "va_start" "vA." "nt", libForm "va_end" "vA" "n",
   libForm "va_copy" "vAA" "n", libForm "stdarg_start" "vA." "nt",
   libForm "assume_aligned" "v*vC*z." "nct", libForm "bcmp" "ivC*vC*z" "Fn",
   libForm "bcopy" "vv*v*z" "n", libForm "bzero" "vv*z" "nF", libForm "fprintf" "iP*cC*." "Fp:1:",
   libForm "free" "vv*" "nF", libForm "malloc" "v*z" "nF", libForm "memchr" "v*vC*iz" "nF",
   libForm "memcmp" "ivC*vC*z" "nF", libForm "memcpy" "v*v*vC*z" "nF",
   libForm "memcpy_inline" "vv*vC*Iz" "nt", libForm "memmove" "v*v*vC*z" "nF",
   libForm "mempcpy" "v*v*vC*z" "nF", libForm "memset" "v*v*iz" "nF",
   libForm "printf" "icC*." "Fp:0:", libForm "stpcpy" "c*c*cC*" "nF",
   libForm "stpncpy" "c*c*cC*z" "nF", libForm "strcasecmp" "icC*cC*" "nF",
   libForm "strcat" "c*c*cC*" "nF", libForm "strchr" "c*cC*i" "nF",
   libForm "strcmp" "icC*cC*" "nF", libForm "strcpy" "c*c*cC*" "nF",
   libForm "strcspn" "zcC*cC*" "nF", libForm "strdup" "c*cC*" "nF", libForm "strlen" "zcC*" "nF",
   libForm "strncasecmp" "icC*cC*z" "nF", libForm "strncat" "c*c*cC*z" "nF",
   libForm "strncmp" "icC*cC*z" "nF", libForm "strncpy" "c*c*cC*z" "nF",
   libForm "strndup" "c*cC*z" "nF", libForm "strpbrk" "c*cC*cC*" "nF",
   libForm "strrchr" "c*cC*i" "nF", libForm "strspn" "zcC*cC*" "nF",
   libForm "strstr" "c*cC*cC*" "nF", libForm "wcschr" "w*wC*w" "nF",
   libForm "wcscmp" "iwC*wC*" "nF", libForm "wcslen" "zwC*" "nF",
   libForm "wcsncmp" "iwC*wC*z" "nF", libForm "wmemchr" "w*wC*wz" "nF",
   libForm "wmemcmp" "iwC*wC*z" "nF", libForm "wmemcpy" "w*w*wC*z" "nF",
   libForm "wmemmove" "w*w*wC*z" "nF", libForm "realloc" "v*v*z" "nF",
   libForm "return_address" "v*IUi" "n", libForm "extract_return_addr" "v*v*" "n",
   libForm "frame_address" "v*IUi" "n", libForm "__clear_cache" "vc*c*" "n",
   libForm "setjmp" "iv**" "j", libForm "longjmp" "vv**i" "r", libForm "unwind_init" "v" "",
   libForm "eh_return_data_regno" "iIi" "nc", libForm "snprintf" "ic*zcC*." "nFp:2:",
   libForm "sprintf" "ic*cC*." "nFP:1:", libForm "vsnprintf" "ic*zcC*a" "nFP:2:",
   libForm "vsprintf" "ic*cC*a" "nFP:1:", libForm "thread_pointer" "v*" "nc",
   libForm "launder" "v*v*" "nt",
   libForm "eh_return" "vzv*" "r", libForm "frob_return_addr" "v*v*" "n",
   libForm "dwarf_cfa" "v*" "n", libForm "init_dwarf_reg_size_table" "vv*" "n",
   libForm "dwarf_sp_column" "Ui" "n", libForm "extend_pointer" "ULLiv*" "n",
   libForm "object_size" "zvC*i" "nu", libForm "dynamic_object_size" "zvC*i" "nu",
   libForm "__memcpy_chk" "v*v*vC*zz" "nF", libForm "__memccpy_chk" "v*v*vC*izz" "nF",
   libForm "__memmove_chk" "v*v*vC*zz" "nF", libForm "__mempcpy_chk" "v*v*vC*zz" "nF",
   libForm "__memset_chk" "v*v*izz" "nF", libForm "__stpcpy_chk" "c*c*cC*z" "nF",
   libForm "__strcat_chk" "c*c*cC*z" "nF", libForm "__strcpy_chk" "c*c*cC*z" "nF",
   libForm "__strlcat_chk" "zc*cC*zz" "nF", libForm "__strlcpy_chk" "zc*cC*zz" "nF",
   libForm "__strncat_chk" "c*c*cC*zz" "nF", libForm "__strncpy_chk" "c*c*cC*zz" "nF",
   libForm "__stpncpy_chk" "c*c*cC*zz" "nF", libForm "__snprintf_chk" "ic*zizcC*." "Fp:4:",
   libForm "__sprintf_chk" "ic*izcC*." "Fp:3:", libForm "__vsnprintf_chk" "ic*zizcC*a" "FP:4:",
   libForm "__vsprintf_chk" "ic*izcC*a" "FP:3:", libForm "__fprintf_chk" "iP*icC*." "Fp:2:",
   libForm "__printf_chk" "iicC*." "Fp:1:", libForm "__vfprintf_chk" "iP*icC*a" "FP:2:",
   libForm "__vprintf_chk" "iicC*a" "FP:1:",
   libForm "unpredictable" "LiLi" "nc", libForm "expect" "LiLiLi" "nc",
   libForm "expect_with_probability" "LiLiLid" "nc", libForm "prefetch" "vvC*." "nc",
   libForm "readcyclecounter" "ULLi" "n", libForm "trap" "v" "nr", libForm "debugtrap" "v" "n",
   libForm "unreachable" "v" "nr", libForm "shufflevector" "v." "nct",
   libForm "alloca" "v*z" "Fn", libForm "alloca_with_align" "v*zIz" "Fn",
   libForm "call_with_static_chain" "v." "nt",
   libForm "matrix_transpose" "v." "nFt", libForm "matrix_column_major_load" "v." "nFt",
   libForm "matrix_column_major_store" "v." "nFt",
   libForm "abort" "v" "Fnr", libForm "index" "c*cC*i" "Fn", libForm "rindex" "c*cC*i" "Fn",
   libForm "annotation" "v." "tn", libForm "assume" "vb" "n",
   libForm "addcb" "UcUcCUcCUcCUc*" "n", libForm "addcs" "UsUsCUsCUsCUs*" "n",
   libForm "addc" "UiUiCUiCUiCUi*" "n", libForm "addcl" "ULiULiCULiCULiCULi*" "n",
   libForm "addcll" "ULLiULLiCULLiCULLiCULLi*" "n", libForm "subcb" "UcUcCUcCUcCUc*" "n",
   libForm "subcs" "UsUsCUsCUsCUs*" "n", libForm "subc" "UiUiCUiCUiCUi*" "n",
   libForm "subcl" "ULiULiCULiCULiCULi*" "n", libForm "subcll" "ULLiULLiCULLiCULLiCULLi*" "n",
   libForm "add_overflow" "b." "nt", libForm "sub_overflow" "b." "nt",
   libForm "mul_overflow" "b." "nt", libForm "uadd_overflow" "bUiCUiCUi*" "n",
   libForm "uaddl_overflow" "bULiCULiCULi*" "n", libForm "uaddll_overflow" "bULLiCULLiCULLi*" "n",
   libForm "usub_overflow" "bUiCUiCUi*" "n", libForm "usubl_overflow" "bULiCULiCULi*" "n",
   libForm "usubll_overflow" "bULLiCULLiCULLi*" "n", libForm "umul_overflow" "bUiCUiCUi*" "n",
   libForm "umull_overflow" "bULiCULiCULi*" "n", libForm "umulll_overflow" "bULLiCULLiCULLi*" "n",
   libForm "sadd_overflow" "bSiCSiCSi*" "n", libForm "saddl_overflow" "bSLiCSLiCSLi*" "n",
   libForm "saddll_overflow" "bSLLiCSLLiCSLLi*" "n", libForm "ssub_overflow" "bSiCSiCSi*" "n",
   libForm "ssubl_overflow" "bSLiCSLiCSLi*" "n", libForm "ssubll_overflow" "bSLLiCSLLiCSLLi*" "n",
   libForm "smul_overflow" "bSiCSiCSi*" "n", libForm "smull_overflow" "bSLiCSLiCSLi*" "n",
   libForm "smulll_overflow" "bSLLiCSLLiCSLLi*" "n",
   libForm "addressof" "v*v&" "nct", libForm "operator_new" "v*z" "tc",
   libForm "operator_delete" "vv*" "tn", libForm "char_memchr" "c*cC*iz" "n",
   libForm "dump_struct" "ivC*v*" "tn", libForm "preserve_access_index" "v." "t",
   libForm "is_aligned" "bvC*z" "nct", libForm "align_up" "v*vC*z" "nct",
   libForm "align_down" "v*vC*z" "nct",
   libForm "__get_unsafe_stack_start" "v*" "Fn", libForm "__get_unsafe_stack_bottom" "v*" "Fn",
   libForm "__get_unsafe_stack_top" "v*" "Fn", libForm "__get_unsafe_stack_ptr" "v*" "Fn",
   libForm "nontemporal_store" "v." "t", libForm "nontemporal_load" "v." "t",
   libForm "ms_va_start" "vc*&." "nt", libForm "ms_va_end" "vc*&" "n",
   libForm "ms_va_copy" "vc*&c*&" "n",
   libForm "os_log_format_buffer_size" "zcC*." "p:0:nut", libForm "os_log_format" "v*v*cC*." "p:0:nt",
   libForm "cpu_init" "v" "n", libForm "cpu_supports" "bcC*" "nc", libForm "cpu_is" "bcC*" "nc",
   b "__xray_customevent" "vcC*z" "", b "__xray_typedevent" "vzcC*z" ""]

/-- The atomic operations: the `__sync` family in its general form and in
one form per operand size, and the `__atomic` and `__c11_atomic` families. -/
def atomicBuiltins : List Builtin :=
  let b := compilerBuiltin
  let sized (name : String) (result : String → String) (rest : String → String) : List Builtin :=
    b name "v." "t" :: ([("1", "c"), ("2", "s"), ("4", "i"), ("8", "LLi"), ("16", "LLLi")].map
      fun (n, t) => b (name ++ "_" ++ n) (result t ++ t ++ "D*" ++ rest t ++ ".") "nt")
  let same := fun (t : String) => t
  let arithmetic := ["add", "sub", "or", "and", "xor", "nand"]
  (arithmetic.flatMap fun o => sized ("__sync_fetch_and_" ++ o) same same) ++
  (arithmetic.flatMap fun o => sized ("__sync_" ++ o ++ "_and_fetch") same same) ++
  sized "__sync_bool_compare_and_swap" (fun _ => "b") (fun t => t ++ t) ++
  sized "__sync_val_compare_and_swap" same (fun t => t ++ t) ++
  sized "__sync_lock_test_and_set" same same ++
  sized "__sync_lock_release" (fun _ => "v") (fun _ => "") ++
  sized "__sync_swap" same same ++
  (["__c11_atomic_init", "__c11_atomic_load", "__c11_atomic_store", "__c11_atomic_exchange",
    "__c11_atomic_compare_exchange_strong", "__c11_atomic_compare_exchange_weak",
    "__c11_atomic_fetch_add", "__c11_atomic_fetch_sub", "__c11_atomic_fetch_and",
    "__c11_atomic_fetch_or", "__c11_atomic_fetch_xor", "__c11_atomic_fetch_max",
    "__c11_atomic_fetch_min", "__atomic_load", "__atomic_load_n", "__atomic_store",
    "__atomic_store_n", "__atomic_exchange", "__atomic_exchange_n", "__atomic_compare_exchange",
    "__atomic_compare_exchange_n", "__atomic_fetch_add", "__atomic_fetch_sub",
    "__atomic_fetch_and", "__atomic_fetch_or", "__atomic_fetch_xor", "__atomic_fetch_nand",
    "__atomic_add_fetch", "__atomic_sub_fetch", "__atomic_and_fetch", "__atomic_or_fetch",
    "__atomic_xor_fetch", "__atomic_max_fetch", "__atomic_min_fetch", "__atomic_nand_fetch",
    "__atomic_fetch_min", "__atomic_fetch_max", "__opencl_atomic_init", "__opencl_atomic_load",
    "__opencl_atomic_store", "__opencl_atomic_exchange",
    "__opencl_atomic_compare_exchange_strong", "__opencl_atomic_compare_exchange_weak",
    "__opencl_atomic_fetch_add", "__opencl_atomic_fetch_sub", "__opencl_atomic_fetch_and",
    "__opencl_atomic_fetch_or", "__opencl_atomic_fetch_xor", "__opencl_atomic_fetch_min",
    "__opencl_atomic_fetch_max"].map fun n => b n "v." "t") ++
  [b "__c11_atomic_thread_fence" "vi" "n", b "__c11_atomic_signal_fence" "vi" "n",
   b "__c11_atomic_is_lock_free" "bz" "nE", b "__atomic_test_and_set" "bvD*i" "n",
   b "__atomic_clear" "vvD*i" "n", b "__atomic_thread_fence" "vi" "n",
   b "__atomic_signal_fence" "vi" "n", b "__atomic_always_lock_free" "bzvCD*" "nE",
   b "__atomic_is_lock_free" "bzvCD*" "nE", b "__sync_synchronize" "v" "n",
   b "__sync_fetch_and_min" "iiD*i" "n", b "__sync_fetch_and_max" "iiD*i" "n",
   b "__sync_fetch_and_umin" "UiUiD*Ui" "n", b "__sync_fetch_and_umax" "UiUiD*Ui" "n"]

/-- The functions of the processor that take and give plain integers and
pointers: fences and hints, counters, flags, random numbers, bit
manipulation, checksums, and the saving of processor state. -/
def processorBuiltins : List Builtin :=
  let x (n c : String) := compilerBuiltin ("__builtin_ia32_" ++ n) c "n"
  [compilerBuiltin "__rdtsc" "ULLi" "", x "rdtscp" "ULLiUi*", x "rdpmc" "ULLii",
   x "pause" "v", x "sfence" "v", x "lfence" "v", x "mfence" "v", x "clflush" "vvC*",
   x "clflushopt" "vvC*", x "clwb" "vvC*", x "clzero" "vv*", x "wbinvd" "v", x "wbnoinvd" "v",
   x "serialize" "v", x "emms" "v", x "femms" "v", x "ldmxcsr" "vUi", x "stmxcsr" "Ui",
   x "readeflags_u32" "Ui", x "writeeflags_u32" "vUi", x "readeflags_u64" "ULLi",
   x "writeeflags_u64" "vULLi", x "rdrand16_step" "UiUs*", x "rdrand32_step" "UiUi*",
   x "rdrand64_step" "UiULLi*", x "rdseed16_step" "UiUs*", x "rdseed32_step" "UiUi*",
   x "rdseed64_step" "UiULLi*", x "crc32qi" "UiUiUc", x "crc32hi" "UiUiUs",
   x "crc32si" "UiUiUi", x "crc32di" "ULLiULLiULLi", x "bextr_u32" "UiUiUi",
   x "bextr_u64" "ULLiULLiULLi", x "bzhi_si" "UiUiUi", x "bzhi_di" "ULLiULLiULLi",
   x "pdep_si" "UiUiUi", x "pdep_di" "ULLiULLiULLi", x "pext_si" "UiUiUi",
   x "pext_di" "ULLiULLiULLi", x "lzcnt_u16" "UsUs", x "lzcnt_u32" "UiUi",
   x "lzcnt_u64" "ULLiULLi", x "tzcnt_u16" "UsUs", x "tzcnt_u32" "UiUi", x "tzcnt_u64" "ULLiULLi",
   x "xgetbv" "ULLiUi", x "xsetbv" "vUiULLi", x "fxsave" "vv*", x "fxrstor" "vv*",
   x "fxsave64" "vv*", x "fxrstor64" "vv*", x "xsave" "vv*ULLi", x "xrstor" "vv*ULLi",
   x "xsave64" "vv*ULLi", x "xrstor64" "vv*ULLi", x "rdfsbase32" "Ui", x "rdgsbase32" "Ui",
   x "rdfsbase64" "ULLi", x "rdgsbase64" "ULLi", x "wrfsbase32" "vUi", x "wrgsbase32" "vUi",
   x "wrfsbase64" "vULLi", x "wrgsbase64" "vULLi", x "rdpid" "Ui", x "rdpkru" "Ui",
   x "wrpkru" "vUi", x "xbegin" "i", x "xend" "v", x "xabort" "vIc", x "xtest" "i",
   x "movnti" "vi*i", x "movnti64" "vLLi*LLi", x "umonitor" "vvC*", x "umwait" "UcUiUiUi",
   x "tpause" "UcUiUiUi", x "monitorx" "vvC*UiUi", x "mwaitx" "vUiUiUi",
   x "monitor" "vvC*UiUi", x "mwait" "vUiUi", x "ptwrite32" "vUi", x "ptwrite64" "vULLi"]

/-- Every function the compiler knows by name. -/
def builtins : List Builtin :=
  libraryBuiltins ++ mathBuiltins ++ generalBuiltins ++ atomicBuiltins ++ processorBuiltins

/-- The function the compiler knows by a name, if it knows one. -/
def findBuiltin? (name : String) : Option Builtin :=
  builtins.find? (·.name == name)

/-- The words a builtin check in the preprocessor accepts besides the
functions: the keywords that are written like calls of functions. -/
def builtinLikeKeywords : List String :=
  ["__builtin_choose_expr", "__builtin_offsetof", "__builtin_FILE", "__builtin_FUNCTION",
   "__builtin_LINE", "__builtin_COLUMN", "__builtin_types_compatible_p", "__builtin_va_arg",
   "__builtin_convertvector", "__builtin_bit_cast", "__builtin_available",
   "__builtin_omp_required_simd_align"]

/-- Whether the preprocessor's builtin check holds for a word: a function
the compiler knows, or a keyword written like one. -/
def isBuiltinName (w : String) : Bool :=
  (findBuiltin? w).isSome || builtinLikeKeywords.contains w

/-- The value of `__has_builtin` for a word: for a function the compiler
knows, 1, or the date its behaviour last changed for the two allocation
functions; 1 for a keyword written like a builtin function and for the
target tests of the preprocessor; else 0. -/
def builtinCheckValue (w : String) : Nat :=
  match findBuiltin? w with
  | some _ =>
    if w == "__builtin_operator_new" || w == "__builtin_operator_delete" then 201802 else 1
  | none =>
    if builtinLikeKeywords.contains w ||
        ["__is_target_arch", "__is_target_vendor", "__is_target_os",
         "__is_target_environment"].contains w then 1
    else 0

end CInspect.Language
