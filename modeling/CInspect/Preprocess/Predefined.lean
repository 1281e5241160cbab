/-!
The macros the compiler defines before it reads a file.

They describe the target (a 64-bit machine with the usual sizes of the
integer and floating types), the language version (C17 with extensions),
and the compiler itself, which presents itself as version 13 followed by
the name of its build, as the installed compiler gives it. The last line
defines `NDEBUG`, which every translation is given, so that assertions
compile to nothing.
-/

namespace CInspect.Preprocess

/-- The version the compiler gives in `__VERSION__` and
`__clang_version__`: its number, then the name of its build, if it has one. -/
def compilerVersion (build : String) : String :=
  if build.isEmpty then "13.0.0" else "13.0.0 " ++ build

/-- The text of the predefined macros, one definition per line, for a
compiler whose build is named `build`. -/
def predefinedText (build : String) : String :=
  String.join [
      "#define _LP64 1\n",
      "#define __ATOMIC_ACQUIRE 2\n",
      "#define __ATOMIC_ACQ_REL 4\n",
      "#define __ATOMIC_CONSUME 1\n",
      "#define __ATOMIC_RELAXED 0\n",
      "#define __ATOMIC_RELEASE 3\n",
      "#define __ATOMIC_SEQ_CST 5\n",
      "#define __BIGGEST_ALIGNMENT__ 16\n",
      "#define __BYTE_ORDER__ __ORDER_LITTLE_ENDIAN__\n",
      "#define __CHAR16_TYPE__ unsigned short\n",
      "#define __CHAR32_TYPE__ unsigned int\n",
      "#define __CHAR_BIT__ 8\n",
      "#define __CLANG_ATOMIC_BOOL_LOCK_FREE 2\n",
      "#define __CLANG_ATOMIC_CHAR16_T_LOCK_FREE 2\n",
      "#define __CLANG_ATOMIC_CHAR32_T_LOCK_FREE 2\n",
      "#define __CLANG_ATOMIC_CHAR_LOCK_FREE 2\n",
      "#define __CLANG_ATOMIC_INT_LOCK_FREE 2\n",
      "#define __CLANG_ATOMIC_LLONG_LOCK_FREE 2\n",
      "#define __CLANG_ATOMIC_LONG_LOCK_FREE 2\n",
      "#define __CLANG_ATOMIC_POINTER_LOCK_FREE 2\n",
      "#define __CLANG_ATOMIC_SHORT_LOCK_FREE 2\n",
      "#define __CLANG_ATOMIC_WCHAR_T_LOCK_FREE 2\n",
      "#define __CONSTANT_CFSTRINGS__ 1\n",
      "#define __DBL_DECIMAL_DIG__ 17\n",
      "#define __DBL_DENORM_MIN__ 4.9406564584124654e-324\n",
      "#define __DBL_DIG__ 15\n",
      "#define __DBL_EPSILON__ 2.2204460492503131e-16\n",
      "#define __DBL_HAS_DENORM__ 1\n",
      "#define __DBL_HAS_INFINITY__ 1\n",
      "#define __DBL_HAS_QUIET_NAN__ 1\n",
      "#define __DBL_MANT_DIG__ 53\n",
      "#define __DBL_MAX_10_EXP__ 308\n",
      "#define __DBL_MAX_EXP__ 1024\n",
      "#define __DBL_MAX__ 1.7976931348623157e+308\n",
      "#define __DBL_MIN_10_EXP__ (-307)\n",
      "#define __DBL_MIN_EXP__ (-1021)\n",
      "#define __DBL_MIN__ 2.2250738585072014e-308\n",
      "#define __DECIMAL_DIG__ __LDBL_DECIMAL_DIG__\n",
      "#define __ELF__ 1\n",
      "#define __FINITE_MATH_ONLY__ 0\n",
      "#define __FLOAT128__ 1\n",
      "#define __FLT_DECIMAL_DIG__ 9\n",
      "#define __FLT_DENORM_MIN__ 1.40129846e-45F\n",
      "#define __FLT_DIG__ 6\n",
      "#define __FLT_EPSILON__ 1.19209290e-7F\n",
      "#define __FLT_EVAL_METHOD__ 0\n",
      "#define __FLT_HAS_DENORM__ 1\n",
      "#define __FLT_HAS_INFINITY__ 1\n",
      "#define __FLT_HAS_QUIET_NAN__ 1\n",
      "#define __FLT_MANT_DIG__ 24\n",
      "#define __FLT_MAX_10_EXP__ 38\n",
      "#define __FLT_MAX_EXP__ 128\n",
      "#define __FLT_MAX__ 3.40282347e+38F\n",
      "#define __FLT_MIN_10_EXP__ (-37)\n",
      "#define __FLT_MIN_EXP__ (-125)\n",
      "#define __FLT_MIN__ 1.17549435e-38F\n",
      "#define __FLT_RADIX__ 2\n",
      "#define __FXSR__ 1\n",
      "#define __GCC_ASM_FLAG_OUTPUTS__ 1\n",
      "#define __GCC_ATOMIC_BOOL_LOCK_FREE 2\n",
      "#define __GCC_ATOMIC_CHAR16_T_LOCK_FREE 2\n",
      "#define __GCC_ATOMIC_CHAR32_T_LOCK_FREE 2\n",
      "#define __GCC_ATOMIC_CHAR_LOCK_FREE 2\n",
      "#define __GCC_ATOMIC_INT_LOCK_FREE 2\n",
      "#define __GCC_ATOMIC_LLONG_LOCK_FREE 2\n",
      "#define __GCC_ATOMIC_LONG_LOCK_FREE 2\n",
      "#define __GCC_ATOMIC_POINTER_LOCK_FREE 2\n",
      "#define __GCC_ATOMIC_SHORT_LOCK_FREE 2\n",
      "#define __GCC_ATOMIC_TEST_AND_SET_TRUEVAL 1\n",
      "#define __GCC_ATOMIC_WCHAR_T_LOCK_FREE 2\n",
      "#define __GCC_HAVE_SYNC_COMPARE_AND_SWAP_1 1\n",
      "#define __GCC_HAVE_SYNC_COMPARE_AND_SWAP_2 1\n",
      "#define __GCC_HAVE_SYNC_COMPARE_AND_SWAP_4 1\n",
      "#define __GCC_HAVE_SYNC_COMPARE_AND_SWAP_8 1\n",
      "#define __GNUC_MINOR__ 2\n",
      "#define __GNUC_PATCHLEVEL__ 1\n",
      "#define __GNUC_STDC_INLINE__ 1\n",
      "#define __GNUC__ 4\n",
      "#define __GXX_ABI_VERSION 1002\n",
      "#define __INT16_C_SUFFIX__ \n",
      "#define __INT16_FMTd__ \"hd\"\n",
      "#define __INT16_FMTi__ \"hi\"\n",
      "#define __INT16_MAX__ 32767\n",
      "#define __INT16_TYPE__ short\n",
      "#define __INT32_C_SUFFIX__ \n",
      "#define __INT32_FMTd__ \"d\"\n",
      "#define __INT32_FMTi__ \"i\"\n",
      "#define __INT32_MAX__ 2147483647\n",
      "#define __INT32_TYPE__ int\n",
      "#define __INT64_C_SUFFIX__ L\n",
      "#define __INT64_FMTd__ \"ld\"\n",
      "#define __INT64_FMTi__ \"li\"\n",
      "#define __INT64_MAX__ 9223372036854775807L\n",
      "#define __INT64_TYPE__ long int\n",
      "#define __INT8_C_SUFFIX__ \n",
      "#define __INT8_FMTd__ \"hhd\"\n",
      "#define __INT8_FMTi__ \"hhi\"\n",
      "#define __INT8_MAX__ 127\n",
      "#define __INT8_TYPE__ signed char\n",
      "#define __INTMAX_C_SUFFIX__ L\n",
      "#define __INTMAX_FMTd__ \"ld\"\n",
      "#define __INTMAX_FMTi__ \"li\"\n",
      "#define __INTMAX_MAX__ 9223372036854775807L\n",
      "#define __INTMAX_TYPE__ long int\n",
      "#define __INTMAX_WIDTH__ 64\n",
      "#define __INTPTR_FMTd__ \"ld\"\n",
      "#define __INTPTR_FMTi__ \"li\"\n",
      "#define __INTPTR_MAX__ 9223372036854775807L\n",
      "#define __INTPTR_TYPE__ long int\n",
      "#define __INTPTR_WIDTH__ 64\n",
      "#define __INT_FAST16_FMTd__ \"hd\"\n",
      "#define __INT_FAST16_FMTi__ \"hi\"\n",
      "#define __INT_FAST16_MAX__ 32767\n",
      "#define __INT_FAST16_TYPE__ short\n",
      "#define __INT_FAST32_FMTd__ \"d\"\n",
      "#define __INT_FAST32_FMTi__ \"i\"\n",
      "#define __INT_FAST32_MAX__ 2147483647\n",
      "#define __INT_FAST32_TYPE__ int\n",
      "#define __INT_FAST64_FMTd__ \"ld\"\n",
      "#define __INT_FAST64_FMTi__ \"li\"\n",
      "#define __INT_FAST64_MAX__ 9223372036854775807L\n",
      "#define __INT_FAST64_TYPE__ long int\n",
      "#define __INT_FAST8_FMTd__ \"hhd\"\n",
      "#define __INT_FAST8_FMTi__ \"hhi\"\n",
      "#define __INT_FAST8_MAX__ 127\n",
      "#define __INT_FAST8_TYPE__ signed char\n",
      "#define __INT_LEAST16_FMTd__ \"hd\"\n",
      "#define __INT_LEAST16_FMTi__ \"hi\"\n",
      "#define __INT_LEAST16_MAX__ 32767\n",
      "#define __INT_LEAST16_TYPE__ short\n",
      "#define __INT_LEAST32_FMTd__ \"d\"\n",
      "#define __INT_LEAST32_FMTi__ \"i\"\n",
      "#define __INT_LEAST32_MAX__ 2147483647\n",
      "#define __INT_LEAST32_TYPE__ int\n",
      "#define __INT_LEAST64_FMTd__ \"ld\"\n",
      "#define __INT_LEAST64_FMTi__ \"li\"\n",
      "#define __INT_LEAST64_MAX__ 9223372036854775807L\n",
      "#define __INT_LEAST64_TYPE__ long int\n",
      "#define __INT_LEAST8_FMTd__ \"hhd\"\n",
      "#define __INT_LEAST8_FMTi__ \"hhi\"\n",
      "#define __INT_LEAST8_MAX__ 127\n",
      "#define __INT_LEAST8_TYPE__ signed char\n",
      "#define __INT_MAX__ 2147483647\n",
      "#define __LDBL_DECIMAL_DIG__ 21\n",
      "#define __LDBL_DENORM_MIN__ 3.64519953188247460253e-4951L\n",
      "#define __LDBL_DIG__ 18\n",
      "#define __LDBL_EPSILON__ 1.08420217248550443401e-19L\n",
      "#define __LDBL_HAS_DENORM__ 1\n",
      "#define __LDBL_HAS_INFINITY__ 1\n",
      "#define __LDBL_HAS_QUIET_NAN__ 1\n",
      "#define __LDBL_MANT_DIG__ 64\n",
      "#define __LDBL_MAX_10_EXP__ 4932\n",
      "#define __LDBL_MAX_EXP__ 16384\n",
      "#define __LDBL_MAX__ 1.18973149535723176502e+4932L\n",
      "#define __LDBL_MIN_10_EXP__ (-4931)\n",
      "#define __LDBL_MIN_EXP__ (-16381)\n",
      "#define __LDBL_MIN__ 3.36210314311209350626e-4932L\n",
      "#define __LITTLE_ENDIAN__ 1\n",
      "#define __LONG_LONG_MAX__ 9223372036854775807LL\n",
      "#define __LONG_MAX__ 9223372036854775807L\n",
      "#define __LP64__ 1\n",
      "#define __MMX__ 1\n",
      "#define __NO_INLINE__ 1\n",
      "#define __OBJC_BOOL_IS_BOOL 0\n",
      "#define __NO_MATH_INLINES 1\n",
      "#define __OPENCL_MEMORY_SCOPE_WORK_ITEM 0\n",
      "#define __OPENCL_MEMORY_SCOPE_WORK_GROUP 1\n",
      "#define __OPENCL_MEMORY_SCOPE_DEVICE 2\n",
      "#define __OPENCL_MEMORY_SCOPE_ALL_SVM_DEVICES 3\n",
      "#define __OPENCL_MEMORY_SCOPE_SUB_GROUP 4\n",
      "#define __ORDER_BIG_ENDIAN__ 4321\n",
      "#define __ORDER_LITTLE_ENDIAN__ 1234\n",
      "#define __ORDER_PDP_ENDIAN__ 3412\n",
      "#define __POINTER_WIDTH__ 64\n",
      "#define __PRAGMA_REDEFINE_EXTNAME 1\n",
      "#define __PTRDIFF_FMTd__ \"ld\"\n",
      "#define __PTRDIFF_FMTi__ \"li\"\n",
      "#define __PTRDIFF_MAX__ 9223372036854775807L\n",
      "#define __PTRDIFF_TYPE__ long int\n",
      "#define __PTRDIFF_WIDTH__ 64\n",
      "#define __REGISTER_PREFIX__ \n",
      "#define __SCHAR_MAX__ 127\n",
      "#define __SEG_FS 1\n",
      "#define __SEG_GS 1\n",
      "#define __SHRT_MAX__ 32767\n",
      "#define __SIG_ATOMIC_MAX__ 2147483647\n",
      "#define __SIG_ATOMIC_WIDTH__ 32\n",
      "#define __SIZEOF_DOUBLE__ 8\n",
      "#define __SIZEOF_FLOAT__ 4\n",
      "#define __SIZEOF_FLOAT128__ 16\n",
      "#define __SIZEOF_INT128__ 16\n",
      "#define __SIZEOF_INT__ 4\n",
      "#define __SIZEOF_LONG_DOUBLE__ 16\n",
      "#define __SIZEOF_LONG_LONG__ 8\n",
      "#define __SIZEOF_LONG__ 8\n",
      "#define __SIZEOF_POINTER__ 8\n",
      "#define __SIZEOF_PTRDIFF_T__ 8\n",
      "#define __SIZEOF_SHORT__ 2\n",
      "#define __SIZEOF_SIZE_T__ 8\n",
      "#define __SIZEOF_WCHAR_T__ 4\n",
      "#define __SIZEOF_WINT_T__ 4\n",
      "#define __SIZE_FMTX__ \"lX\"\n",
      "#define __SIZE_FMTo__ \"lo\"\n",
      "#define __SIZE_FMTu__ \"lu\"\n",
      "#define __SIZE_FMTx__ \"lx\"\n",
      "#define __SIZE_MAX__ 18446744073709551615UL\n",
      "#define __SIZE_TYPE__ long unsigned int\n",
      "#define __SIZE_WIDTH__ 64\n",
      "#define __SSE2_MATH__ 1\n",
      "#define __SSE2__ 1\n",
      "#define __SSE_MATH__ 1\n",
      "#define __SSE__ 1\n",
      "#define __STDC_HOSTED__ 1\n",
      "#define __STDC_UTF_16__ 1\n",
      "#define __STDC_UTF_32__ 1\n",
      "#define __STDC_VERSION__ 201710L\n",
      "#define __STDC__ 1\n",
      "#define __UINT16_C_SUFFIX__ \n",
      "#define __UINT16_FMTX__ \"hX\"\n",
      "#define __UINT16_FMTo__ \"ho\"\n",
      "#define __UINT16_FMTu__ \"hu\"\n",
      "#define __UINT16_FMTx__ \"hx\"\n",
      "#define __UINT16_MAX__ 65535\n",
      "#define __UINT16_TYPE__ unsigned short\n",
      "#define __UINT32_C_SUFFIX__ U\n",
      "#define __UINT32_FMTX__ \"X\"\n",
      "#define __UINT32_FMTo__ \"o\"\n",
      "#define __UINT32_FMTu__ \"u\"\n",
      "#define __UINT32_FMTx__ \"x\"\n",
      "#define __UINT32_MAX__ 4294967295U\n",
      "#define __UINT32_TYPE__ unsigned int\n",
      "#define __UINT64_C_SUFFIX__ UL\n",
      "#define __UINT64_FMTX__ \"lX\"\n",
      "#define __UINT64_FMTo__ \"lo\"\n",
      "#define __UINT64_FMTu__ \"lu\"\n",
      "#define __UINT64_FMTx__ \"lx\"\n",
      "#define __UINT64_MAX__ 18446744073709551615UL\n",
      "#define __UINT64_TYPE__ long unsigned int\n",
      "#define __UINT8_C_SUFFIX__ \n",
      "#define __UINT8_FMTX__ \"hhX\"\n",
      "#define __UINT8_FMTo__ \"hho\"\n",
      "#define __UINT8_FMTu__ \"hhu\"\n",
      "#define __UINT8_FMTx__ \"hhx\"\n",
      "#define __UINT8_MAX__ 255\n",
      "#define __UINT8_TYPE__ unsigned char\n",
      "#define __UINTMAX_C_SUFFIX__ UL\n",
      "#define __UINTMAX_FMTX__ \"lX\"\n",
      "#define __UINTMAX_FMTo__ \"lo\"\n",
      "#define __UINTMAX_FMTu__ \"lu\"\n",
      "#define __UINTMAX_FMTx__ \"lx\"\n",
      "#define __UINTMAX_MAX__ 18446744073709551615UL\n",
      "#define __UINTMAX_TYPE__ long unsigned int\n",
      "#define __UINTMAX_WIDTH__ 64\n",
      "#define __UINTPTR_FMTX__ \"lX\"\n",
      "#define __UINTPTR_FMTo__ \"lo\"\n",
      "#define __UINTPTR_FMTu__ \"lu\"\n",
      "#define __UINTPTR_FMTx__ \"lx\"\n",
      "#define __UINTPTR_MAX__ 18446744073709551615UL\n",
      "#define __UINTPTR_TYPE__ long unsigned int\n",
      "#define __UINTPTR_WIDTH__ 64\n",
      "#define __UINT_FAST16_FMTX__ \"hX\"\n",
      "#define __UINT_FAST16_FMTo__ \"ho\"\n",
      "#define __UINT_FAST16_FMTu__ \"hu\"\n",
      "#define __UINT_FAST16_FMTx__ \"hx\"\n",
      "#define __UINT_FAST16_MAX__ 65535\n",
      "#define __UINT_FAST16_TYPE__ unsigned short\n",
      "#define __UINT_FAST32_FMTX__ \"X\"\n",
      "#define __UINT_FAST32_FMTo__ \"o\"\n",
      "#define __UINT_FAST32_FMTu__ \"u\"\n",
      "#define __UINT_FAST32_FMTx__ \"x\"\n",
      "#define __UINT_FAST32_MAX__ 4294967295U\n",
      "#define __UINT_FAST32_TYPE__ unsigned int\n",
      "#define __UINT_FAST64_FMTX__ \"lX\"\n",
      "#define __UINT_FAST64_FMTo__ \"lo\"\n",
      "#define __UINT_FAST64_FMTu__ \"lu\"\n",
      "#define __UINT_FAST64_FMTx__ \"lx\"\n",
      "#define __UINT_FAST64_MAX__ 18446744073709551615UL\n",
      "#define __UINT_FAST64_TYPE__ long unsigned int\n",
      "#define __UINT_FAST8_FMTX__ \"hhX\"\n",
      "#define __UINT_FAST8_FMTo__ \"hho\"\n",
      "#define __UINT_FAST8_FMTu__ \"hhu\"\n",
      "#define __UINT_FAST8_FMTx__ \"hhx\"\n",
      "#define __UINT_FAST8_MAX__ 255\n",
      "#define __UINT_FAST8_TYPE__ unsigned char\n",
      "#define __UINT_LEAST16_FMTX__ \"hX\"\n",
      "#define __UINT_LEAST16_FMTo__ \"ho\"\n",
      "#define __UINT_LEAST16_FMTu__ \"hu\"\n",
      "#define __UINT_LEAST16_FMTx__ \"hx\"\n",
      "#define __UINT_LEAST16_MAX__ 65535\n",
      "#define __UINT_LEAST16_TYPE__ unsigned short\n",
      "#define __UINT_LEAST32_FMTX__ \"X\"\n",
      "#define __UINT_LEAST32_FMTo__ \"o\"\n",
      "#define __UINT_LEAST32_FMTu__ \"u\"\n",
      "#define __UINT_LEAST32_FMTx__ \"x\"\n",
      "#define __UINT_LEAST32_MAX__ 4294967295U\n",
      "#define __UINT_LEAST32_TYPE__ unsigned int\n",
      "#define __UINT_LEAST64_FMTX__ \"lX\"\n",
      "#define __UINT_LEAST64_FMTo__ \"lo\"\n",
      "#define __UINT_LEAST64_FMTu__ \"lu\"\n",
      "#define __UINT_LEAST64_FMTx__ \"lx\"\n",
      "#define __UINT_LEAST64_MAX__ 18446744073709551615UL\n",
      "#define __UINT_LEAST64_TYPE__ long unsigned int\n",
      "#define __UINT_LEAST8_FMTX__ \"hhX\"\n",
      "#define __UINT_LEAST8_FMTo__ \"hho\"\n",
      "#define __UINT_LEAST8_FMTu__ \"hhu\"\n",
      "#define __UINT_LEAST8_FMTx__ \"hhx\"\n",
      "#define __UINT_LEAST8_MAX__ 255\n",
      "#define __UINT_LEAST8_TYPE__ unsigned char\n",
      "#define __USER_LABEL_PREFIX__ \n",
      "#define __VERSION__ \"Clang " ++ compilerVersion build ++ "\"\n",
      "#define __WCHAR_MAX__ 2147483647\n",
      "#define __WCHAR_TYPE__ int\n",
      "#define __WCHAR_WIDTH__ 32\n",
      "#define __WINT_MAX__ 4294967295U\n",
      "#define __WINT_TYPE__ unsigned int\n",
      "#define __WINT_UNSIGNED__ 1\n",
      "#define __WINT_WIDTH__ 32\n",
      "#define __amd64 1\n",
      "#define __amd64__ 1\n",
      "#define __clang__ 1\n",
      "#define __clang_literal_encoding__ \"UTF-8\"\n",
      "#define __clang_major__ 13\n",
      "#define __clang_minor__ 0\n",
      "#define __clang_patchlevel__ 0\n",
      "#define __clang_version__ \"" ++ compilerVersion build ++ "\"\n",
      "#define __clang_wide_literal_encoding__ \"UTF-32\"\n",
      "#define __code_model_small__ 1\n",
      "#define __gnu_linux__ 1\n",
      "#define __k8 1\n",
      "#define __k8__ 1\n",
      "#define __linux 1\n",
      "#define __linux__ 1\n",
      "#define __llvm__ 1\n",
      "#define __seg_fs __attribute__((address_space(257)))\n",
      "#define __seg_gs __attribute__((address_space(256)))\n",
      "#define __tune_k8__ 1\n",
      "#define __unix 1\n",
      "#define __unix__ 1\n",
      "#define __x86_64 1\n",
      "#define __x86_64__ 1\n",
      "#define linux 1\n",
      "#define unix 1\n",
      "#define NDEBUG 1\n",
      ""]

end CInspect.Preprocess
