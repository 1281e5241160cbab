/-!
The keywords of C as the compiler reads it: C17 with the GNU extensions and
the compiler's own additions.

A keyword is never an identifier, so `__is_identifier` gives 0 for each of
them. The words that only other languages or dialects reserve (C++,
Objective-C, OpenCL, the Microsoft extensions) are identifiers here.
-/

namespace CInspect.Language

/-- The keywords of the C17 standard. -/
def standardKeywords : List String :=
  ["auto", "break", "case", "char", "const", "continue", "default", "do", "double", "else", "enum",
   "extern", "float", "for", "goto", "if", "inline", "int", "long", "register", "restrict",
   "return", "short", "signed", "sizeof", "static", "struct", "switch", "typedef", "union",
   "unsigned", "void", "volatile", "while", "_Alignas", "_Alignof", "_Atomic", "_Bool",
   "_Complex", "_Generic", "_Imaginary", "_Noreturn", "_Static_assert", "_Thread_local",
   "__func__"]

/-- The keywords of the GNU extensions, their alternative spellings, and
those the compiler adds. The fixed-point words `_Accum`, `_Fract` and
`_Sat` are keywords even where fixed-point types are not enabled. -/
def extensionKeywords : List String :=
  ["asm", "typeof", "__alignof", "__alignof__", "__asm", "__asm__", "__attribute",
   "__attribute__", "__builtin_choose_expr", "__builtin_offsetof", "__builtin_FILE",
   "__builtin_FUNCTION", "__builtin_LINE", "__builtin_COLUMN", "__builtin_types_compatible_p",
   "__builtin_va_arg", "__builtin_convertvector", "__builtin_bit_cast", "__builtin_available",
   "__builtin_omp_required_simd_align", "__extension__", "__float128", "__imag", "__imag__",
   "__int128", "__label__", "__real", "__real__", "__thread", "__FUNCTION__",
   "__PRETTY_FUNCTION__", "__auto_type", "__complex", "__complex__", "__const", "__const__",
   "__inline", "__inline__", "__restrict", "__restrict__", "__signed", "__signed__", "__typeof",
   "__typeof__", "__volatile", "__volatile__", "_Decimal32", "_Decimal64", "_Decimal128",
   "_Float16", "__fp16", "__bf16", "_ExtInt", "__private_extern__", "__module_private__",
   "_Nonnull", "_Nullable", "_Nullable_result", "_Null_unspecified", "__kindof", "__cdecl",
   "__stdcall", "__fastcall", "__thiscall", "__regcall", "__vectorcall", "__pascal",
   "__objc_yes", "__objc_no", "_Accum", "_Fract", "_Sat"]

/-- Whether a word is a keyword. -/
def isKeyword (w : String) : Bool :=
  standardKeywords.contains w || extensionKeywords.contains w

end CInspect.Language
