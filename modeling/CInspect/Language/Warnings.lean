import CInspect.Source.Diagnostic
/-!
The warning groups of the compiler, and how `#pragma clang diagnostic`
changes the severity of the warnings in a group.

Every warning belongs to the group its option names (`-Wformat-security`
names `format-security`). A group may hold other groups: `format` holds
`format-security`, `all` holds `most`, which holds `format`. A directive
that sets a group's severity sets it for every warning of the group and
of the groups under it, from where the directive stands on; `push` saves
the settings in force and `pop` brings the saved ones back.

`__has_warning("-Wname")` is 1 exactly when `name` is a group;
`everything` is not one.
-/

namespace CInspect.Language

open CInspect.Source

/-- The groups that hold other groups, with the groups they hold. -/
def warningSubgroups : List (String × List String) :=
  [("all", ["most", "parentheses", "switch", "switch-bool", "misleading-indentation"]),
   ("most", ["bool-operation", "char-subscripts", "comment", "delete-non-virtual-dtor",
     "for-loop-analysis", "format", "frame-address", "implicit", "infinite-recursion",
     "int-in-bool-context", "mismatched-tags", "missing-braces", "move", "multichar",
     "range-loop-construct", "reorder", "return-type", "self-assign", "self-move",
     "sizeof-array-argument", "sizeof-array-decay", "string-plus-int", "tautological-compare",
     "trigraphs", "uninitialized", "unknown-pragmas", "unused", "user-defined-warnings",
     "volatile-register-var", "objc-missing-super-calls", "objc-designated-initializers",
     "objc-flexible-array", "overloaded-virtual", "private-extern", "cast-of-sel-type",
     "extern-c-compat"]),
   ("extra", ["deprecated-copy", "empty-init-stmt", "ignored-qualifiers", "initializer-overrides",
     "semicolon-before-method-body", "missing-field-initializers", "missing-method-return-type",
     "null-pointer-arithmetic", "null-pointer-subtraction", "sign-compare", "unused-parameter",
     "unused-but-set-parameter"]),
   ("parentheses", ["logical-op-parentheses", "logical-not-parentheses",
     "bitwise-conditional-parentheses", "bitwise-op-parentheses", "shift-op-parentheses",
     "overloaded-shift-op-parentheses", "parentheses-equality", "dangling-else"]),
   ("format", ["format-extra-args", "format-zero-length", "nonnull", "format-security",
     "format-y2k", "format-invalid-specifier", "format-insufficient-args"]),
   ("format=2", ["format-nonliteral", "format-security", "format-y2k"]),
   ("unused", ["unused-argument", "unused-but-set-variable", "unused-function", "unused-label",
     "unused-private-field", "unused-lambda-capture", "unused-local-typedef", "unused-value",
     "unused-variable", "unused-property-ivar"]),
   ("unused-value", ["unused-comparison", "unused-result", "unevaluated-expression"]),
   ("unevaluated-expression", ["potentially-evaluated-expression"]),
   ("unused-function", ["unneeded-internal-declaration"]),
   ("unused-variable", ["unused-const-variable"]),
   ("uninitialized", ["sometimes-uninitialized", "static-self-init", "uninitialized-const-reference"]),
   ("return-type", ["return-type-c-linkage"]),
   ("implicit", ["implicit-function-declaration", "implicit-int"]),
   ("incompatible-pointer-types", ["incompatible-pointer-types-discards-qualifiers",
     "incompatible-function-pointer-types"]),
   ("conversion", ["bitfield-enum-conversion", "bool-conversion", "constant-conversion",
     "enum-conversion", "float-conversion", "shorten-64-to-32", "int-conversion",
     "literal-conversion", "non-literal-null-conversion", "null-conversion",
     "objc-literal-conversion", "sign-conversion", "string-conversion"]),
   ("bool-conversion", ["pointer-bool-conversion", "undefined-bool-conversion"]),
   ("constant-conversion", ["bitfield-constant-conversion", "objc-bool-constant-conversion"]),
   ("float-conversion", ["float-overflow-conversion", "float-zero-conversion"]),
   ("enum-conversion", ["enum-enum-conversion", "enum-float-conversion"]),
   ("implicit-int-conversion", ["implicit-const-int-float-conversion"]),
   ("tautological-compare", ["tautological-constant-compare", "tautological-pointer-compare",
     "tautological-overlap-compare", "tautological-bitwise-compare",
     "tautological-undefined-compare", "tautological-objc-bool-compare"]),
   ("tautological-constant-compare", ["tautological-constant-out-of-range-compare"]),
   ("tautological-constant-in-range-compare", ["tautological-type-limit-compare",
     "tautological-unsigned-zero-compare", "tautological-unsigned-enum-zero-compare",
     "tautological-value-range-compare"]),
   ("shadow-all", ["shadow", "shadow-field-in-constructor", "shadow-uncaptured-local",
     "shadow-field"]),
   ("shadow", ["shadow-field-in-constructor-modified", "shadow-ivar"]),
   ("address", ["pointer-bool-conversion", "string-compare", "tautological-pointer-compare"]),
   ("pointer-to-int-cast", ["pointer-to-enum-cast"]),
   ("void-pointer-to-int-cast", ["void-pointer-to-enum-cast"]),
   ("int-to-pointer-cast", ["int-to-void-pointer-cast"]),
   ("cast-qual", ["cast-qual-unrelated"]),
   ("unreachable-code-aggressive", ["unreachable-code", "unreachable-code-break",
     "unreachable-code-return"]),
   ("unreachable-code", ["unreachable-code-loop-increment"]),
   ("non-gcc", ["sign-compare", "conversion", "literal-range"]),
   ("deprecated", ["deprecated-anon-enum-enum-conversion", "deprecated-array-compare",
     "deprecated-attributes", "deprecated-comma-subscript", "deprecated-copy",
     "deprecated-copy-with-dtor", "deprecated-declarations", "deprecated-dynamic-exception-spec",
     "deprecated-enum-compare", "deprecated-enum-compare-conditional",
     "deprecated-enum-enum-conversion", "deprecated-enum-float-conversion",
     "deprecated-increment-bool", "deprecated-register", "deprecated-this-capture",
     "deprecated-volatile", "deprecated-writable-strings"]),
   ("gnu", ["gnu-alignof-expression", "gnu-anonymous-struct", "gnu-auto-type", "gnu-binary-literal",
     "gnu-case-range", "gnu-complex-integer", "gnu-compound-literal-initializer",
     "gnu-conditional-omitted-operand", "gnu-designator", "gnu-empty-initializer",
     "gnu-empty-struct", "gnu-flexible-array-initializer", "gnu-flexible-array-union-member",
     "gnu-folding-constant", "gnu-imaginary-constant", "gnu-include-next", "gnu-label-as-value",
     "gnu-redeclared-enum", "gnu-statement-expression", "gnu-static-float-init",
     "gnu-union-cast", "gnu-variable-sized-type-not-at-end", "gnu-zero-line-directive",
     "gnu-zero-variadic-macro-arguments", "redeclared-class-member", "vla-extension",
     "zero-length-array"]),
   ("comments", ["comment"]),
   ("thread-safety", ["thread-safety-attributes", "thread-safety-analysis",
     "thread-safety-precise", "thread-safety-reference"]),
   ("array-bounds", ["array-bounds-pointer-arithmetic"]),
   ("sizeof-pointer-memaccess", ["sizeof-pointer-div"]),
   ("fortify-source", []),
   ("int-conversions", ["int-conversion"]),
   ("bool-conversions", ["bool-conversion"]),
   ("vector-conversions", ["vector-conversion"]),
   ("write-strings", ["writable-strings"]),
   ("pointer-sign", []),
   ("switch-enum", []),
   ("empty-body", [])]

/-- The groups that hold no other group. -/
def leafWarningGroups : List String :=
  ["#pragma-messages", "#warnings", "abi", "absolute-value", "address-of-packed-member",
   "address-of-temporary", "aggregate-return", "align-mismatch", "alloca",
   "alloca-with-align-alignof", "ambiguous-macro", "analyzer-incompatible-plugin",
   "anon-enum-enum-conversion", "argument-outside-range", "array-parameter", "asm",
   "asm-operand-widths", "assign-enum", "assume", "atomic-alignment", "atomic-implicit-seq-cst",
   "atomic-memory-ordering", "attribute-packed-for-bitfield", "attributes", "auto-var-id",
   "availability", "backslash-newline-escape", "bad-function-cast", "binary-literal",
   "bitfield-width", "builtin-assume-aligned-alignment", "builtin-macro-redefined",
   "builtin-memcpy-chk-size", "builtin-requires-header", "c11-extensions", "c2x-extensions",
   "c99-compat", "c99-designator", "c99-extensions", "called-once-parameter", "cast-align",
   "cast-calling-convention", "char-align", "clang-cl-pch", "cmse-union-leak", "comma",
   "compare-distinct-pointer-types", "completion-handler", "complex-component-init",
   "compound-token-split", "compound-token-split-by-macro", "compound-token-split-by-space",
   "conditional-type-mismatch", "conditional-uninitialized", "config-macros",
   "constant-logical-operand", "covered-switch-default", "cpp", "cstring-format-directive",
   "dangling", "date-time", "declaration-after-statement", "delete-incomplete",
   "disabled-macro-expansion", "disabled-optimization", "discard-qual", "div-by-zero",
   "division-by-zero", "documentation", "documentation-html", "documentation-pedantic",
   "documentation-unknown-command", "dollar-in-identifier-extension", "double-promotion",
   "duplicate-decl-specifier", "duplicate-enum", "embedded-directive", "empty-translation-unit",
   "encode-type", "endif-labels", "enum-compare", "enum-compare-conditional",
   "enum-compare-switch", "enum-too-large", "excess-initializers", "expansion-to-defined",
   "explicit-initialize-call", "extern-initializer", "extra-semi", "extra-semi-stmt",
   "extra-tokens", "fallback", "fixed-enum-extension", "flag-enum", "flexible-array-extensions",
   "float-equal", "format-non-iso", "format-pedantic", "format-type-confusion",
   "four-char-constants", "frame-larger-than", "free-nonheap-object", "function-multiversion",
   "gcc-compat", "global-constructors", "header-guard", "header-hygiene", "idiomatic-parentheses",
   "ignored-attributes", "ignored-optimization-argument", "ignored-pragma-intrinsic",
   "ignored-pragma-optimize", "ignored-pragmas", "implicit-fallthrough",
   "implicit-fallthrough-per-function", "implicit-fixed-point-conversion",
   "implicit-float-conversion", "implicit-int-float-conversion",
   "implicitly-unsigned-literal", "include-next-absolute-path", "include-next-outside-header",
   "incompatible-library-redeclaration", "incompatible-ms-struct", "incomplete-setjmp-declaration",
   "increment-bool", "initializer-overrides", "inline", "inline-asm", "int-conversion",
   "integer-overflow", "invalid-noreturn", "invalid-pp-token", "invalid-source-encoding",
   "invalid-token-paste", "keyword-macro", "knr-promoted-parameter", "language-extension-token",
   "large-by-value-copy", "literal-range", "long-long", "loop-analysis", "macro-redefined",
   "main", "main-return-type", "malformed-warning-check", "many-braces-around-scalar-init",
   "max-tokens", "max-unsigned-zero", "memset-transposed-args", "memsize-comparison",
   "microsoft", "misexpect", "mismatched-parameter-types", "mismatched-return-types",
   "missing-declarations", "missing-format-attribute", "missing-include-dirs",
   "missing-noescape", "missing-noreturn", "missing-prototypes", "missing-variable-declarations",
   "module-import-in-extern-c", "msvc-include", "nested-externs", "newline-eof", "noderef",
   "non-power-of-two-alignment", "nonportable-include-path", "nonportable-system-include-path",
   "nonportable-vector-initialization", "nontrivial-memaccess", "null-arithmetic",
   "null-character", "null-dereference", "null-pointer-arithmetic", "null-pointer-subtraction",
   "nullability", "nullability-completeness", "nullability-completeness-on-arrays",
   "nullability-declspec", "nullability-extension", "nullability-inferred-on-nested-type",
   "nullable-to-nonnull-conversion", "old-style-definition", "openmp", "option-ignored",
   "ordered-compare-function-pointers", "out-of-scope-function", "over-aligned", "overflow",
   "overlength-strings", "override-init", "packed", "padded", "pedantic", "pedantic-core-features",
   "pointer-arith", "pointer-compare", "pointer-integer-compare", "pointer-type-mismatch",
   "poison-system-directories", "pragma-clang-attribute", "pragma-once-outside-header",
   "pragma-pack", "pragma-pack-suspicious-include", "pragma-system-header-outside-header",
   "pragmas", "predefined-identifier-outside-function", "psabi", "qualified-void-return-type",
   "redundant-decls", "redundant-parens", "register", "reserved-id-macro", "reserved-identifier",
   "reserved-macro-identifier", "restrict-expansion", "return-stack-address", "section",
   "sentinel", "sequence-point", "shift-count-negative", "shift-count-overflow",
   "shift-negative-value", "shift-overflow", "shift-sign-overflow", "sign-promo",
   "signed-enum-bitfield", "sizeof-array-div", "source-uses-openmp", "stack-exhausted",
   "stack-protector", "static-float-init", "static-in-inline", "static-local-in-inline",
   "strict-aliasing", "strict-overflow", "strict-prototypes", "string-concatenation",
   "string-plus-char", "strlcpy-strlcat-size", "strncat-size", "suspicious-bzero",
   "suspicious-memaccess", "switch-default", "sync-fetch-and-nand-semantics-changed",
   "tentative-definition-incomplete-type", "thread-safety-beta", "thread-safety-negative",
   "thread-safety-verbose", "type-limits", "type-safety", "typedef-redefinition",
   "unaligned-access", "unavailable-declarations", "undef", "undef-prefix",
   "undefined-inline", "undefined-internal", "undefined-internal-type", "unicode",
   "unicode-homoglyph", "unicode-whitespace", "unicode-zero-width", "unknown-argument",
   "unknown-assumption", "unknown-attributes", "unknown-escape-sequence", "unknown-pragmas",
   "unknown-sanitizers", "unknown-warning-option", "unsequenced", "unsupported-abs",
   "unsupported-availability-guard", "unsupported-cb", "unsupported-gpopt", "unsupported-nan",
   "unsupported-target-opt", "unsupported-visibility", "unused-command-line-argument",
   "unused-local-typedefs", "unused-macros", "unused-parameter", "unused-volatile-lvalue",
   "used-but-marked-unused", "varargs", "variadic-macros", "vec-elem-size", "visibility", "vla",
   "void-ptr-dereference", "xor-used-as-pow", "zero-as-null-pointer-constant"]

/-- The groups a group holds directly. -/
def subgroupsOf (group : String) : List String :=
  match warningSubgroups.find? (·.1 == group) with
  | some (_, gs) => gs
  | none => []

/-- The other groups, which hold warnings of other languages and of the
other stages of the compiler: they are only named, never set here. -/
def otherWarningGroups : List String :=
  ["CFString-literal", "CL4", "IndependentClass-attribute", "NSObject-attribute",
   "abstract-final-class", "abstract-vbase-init", "aix-compat", "ambiguous-delete",
   "ambiguous-ellipsis", "ambiguous-member-template", "ambiguous-reversed-operator",
   "anonymous-pack-parens", "arc", "arc-bridge-casts-disallowed-in-nonarc",
   "arc-maybe-repeated-use-of-weak", "arc-non-pod-memaccess", "arc-performSelector-leaks",
   "arc-repeated-use-of-weak", "arc-retain-cycles", "arc-unsafe-retained-assign", "at-protocol",
   "atimport-in-framework-header", "atomic-properties",
   "atomic-property-with-user-defined-accessor", "auto-disable-vptr-sanitizer", "auto-import",
   "auto-storage-class", "backend-plugin", "bind-to-temporary-copy",
   "block-capture-autoreleasing", "braced-scalar-init", "bridge-cast", "c++-compat",
   "c++0x-compat", "c++0x-extensions", "c++0x-narrowing", "c++11-compat",
   "c++11-compat-deprecated-writable-strings", "c++11-compat-pedantic",
   "c++11-compat-reserved-user-defined-literal", "c++11-extensions", "c++11-extra-semi",
   "c++11-inline-namespace", "c++11-long-long", "c++11-narrowing", "c++14-attribute-extensions",
   "c++14-binary-literal", "c++14-compat", "c++14-compat-pedantic", "c++14-extensions",
   "c++17-attribute-extensions", "c++17-compat", "c++17-compat-mangling",
   "c++17-compat-pedantic", "c++17-extensions", "c++1y-extensions", "c++1z-compat",
   "c++1z-compat-mangling", "c++1z-extensions", "c++20-attribute-extensions", "c++20-compat",
   "c++20-compat-pedantic", "c++20-designator", "c++20-extensions", "c++2a-compat",
   "c++2a-compat-pedantic", "c++2a-extensions", "c++2b-extensions",
   "c++98-c++11-c++14-c++17-compat", "c++98-c++11-c++14-c++17-compat-pedantic",
   "c++98-c++11-c++14-compat", "c++98-c++11-c++14-compat-pedantic", "c++98-c++11-compat",
   "c++98-c++11-compat-binary-literal", "c++98-c++11-compat-pedantic", "c++98-compat",
   "c++98-compat-bind-to-temporary-copy", "c++98-compat-extra-semi",
   "c++98-compat-local-type-template-args", "c++98-compat-pedantic",
   "c++98-compat-unnamed-type-template-args", "call-to-pure-virtual-from-ctor-dtor",
   "cast-function-type", "class-conversion", "class-varargs", "constant-evaluated",
   "constexpr-not-const", "consumed", "conversion-null", "coroutine",
   "coroutine-missing-unhandled-exception", "ctad-maybe-unsupported", "ctor-dtor-privacy", "ctu",
   "cuda-compat", "custom-atomic-properties", "dangling-field", "dangling-gsl",
   "dangling-initializer-list", "darwin-sdk-settings", "dealloc-in-category",
   "debug-compression-unavailable", "defaulted-function-deleted",
   "delayed-template-parsing-in-cxx20", "delegating-ctor-cycles",
   "delete-abstract-non-virtual-dtor", "delete-non-abstract-non-virtual-dtor",
   "deprecated-copy-dtor", "deprecated-implementations", "deprecated-objc-isa-usage",
   "deprecated-objc-pointer-introspection",
   "deprecated-objc-pointer-introspection-performSelector", "direct-ivar-access",
   "distributed-object-modifiers", "dll-attribute-on-redeclaration",
   "dllexport-explicit-instantiation-decl", "dllimport-static-field-def",
   "documentation-deprecated-sync", "dtor-name", "dtor-typedef", "duplicate-method-arg",
   "duplicate-method-match", "duplicate-protocol", "dynamic-class-memaccess",
   "dynamic-exception-spec", "effc++", "elaborated-enum-base", "elaborated-enum-class",
   "empty-decomposition", "exceptions", "exit-time-destructors", "explicit-ownership-type",
   "explicit-specialization-storage-class", "extra-qualification", "final-dtor-non-final-class",
   "fixed-point-overflow", "frame-larger-than=", "framework-include-private-from-public",
   "function-def-in-objc-container", "fuse-ld-path", "future-compat", "global-isel",
   "gnu-array-member-paren-init", "gnu-inline-cpp-without-extern", "gnu-null-pointer-arithmetic",
   "gnu-string-literal-operator-template", "gpu-maybe-wrong-side",
   "ignored-reference-qualifiers", "implicit-atomic-properties",
   "implicit-conversion-floating-point-to-bool", "implicit-exception-spec-mismatch",
   "implicit-retain-self", "import", "import-preprocessor-directive-pedantic",
   "inaccessible-base", "incompatible-exception-spec", "incompatible-property-type",
   "incompatible-sysroot", "incomplete-framework-module-declaration",
   "incomplete-implementation", "incomplete-module", "incomplete-umbrella",
   "inconsistent-dllimport", "inconsistent-missing-destructor-override",
   "inconsistent-missing-override", "init-self", "injected-class-name",
   "inline-namespace-reopened-noninline", "inline-new-delete",
   "instantiation-after-specialization", "invalid-command-line-argument", "invalid-constexpr",
   "invalid-iboutlet", "invalid-initializer-from-system-header", "invalid-ios-deployment-target",
   "invalid-no-builtin-names", "invalid-offsetof", "invalid-partial-specialization",
   "invalid-pch", "jump-seh-finally", "keyword-compat", "local-type-template-args",
   "method-signatures", "microsoft-abstract", "microsoft-anon-tag", "microsoft-cast",
   "microsoft-charize", "microsoft-comment-paste", "microsoft-const-init", "microsoft-cpp-macro",
   "microsoft-default-arg-redefinition", "microsoft-drectve-section", "microsoft-empty-enum",
   "microsoft-end-of-file", "microsoft-enum-forward-reference", "microsoft-enum-value",
   "microsoft-exception-spec", "microsoft-exists", "microsoft-explicit-constructor-call",
   "microsoft-extra-qualification", "microsoft-fixed-enum", "microsoft-flexible-array",
   "microsoft-goto", "microsoft-inaccessible-base", "microsoft-include",
   "microsoft-mutable-reference", "microsoft-pure-definition", "microsoft-redeclare-static",
   "microsoft-sealed", "microsoft-template", "microsoft-template-shadow",
   "microsoft-union-member-reference", "microsoft-unqualified-friend", "microsoft-using-decl",
   "microsoft-void-pseudo-dtor", "mismatched-new-delete", "missing-constinit",
   "missing-exception-spec", "missing-prototype-for-cc", "missing-selector-name",
   "missing-sysroot", "module-build", "module-conflict", "module-file-config-mismatch",
   "module-file-extension", "module-import", "module-lock", "modules-ambiguous-internal-linkage",
   "modules-import-nested-redundant", "msvc-not-found", "multiple-move-vbase", "narrowing",
   "nested-anon-types", "new-returns-null", "noexcept-type", "non-c-typedef-for-linkage",
   "non-modular-include-in-framework-module", "non-modular-include-in-module", "non-pod-varargs",
   "non-virtual-dtor", "nonportable-cfstrings", "nsconsumed-mismatch", "nsreturns-mismatch",
   "nvcc-compat", "objc-autosynthesis-property-ivar-name-match", "objc-boxing",
   "objc-circular-container", "objc-cocoa-api", "objc-dictionary-duplicate-keys",
   "objc-duplicate-category-definition", "objc-forward-class-redefinition",
   "objc-interface-ivars", "objc-literal-compare", "objc-macro-redefinition",
   "objc-messaging-id", "objc-method-access", "objc-missing-property-synthesis",
   "objc-multiple-method-names", "objc-noncopy-retain-block-property",
   "objc-nonunified-exceptions", "objc-property-assign-on-object-type",
   "objc-property-implementation", "objc-property-implicit-mismatch",
   "objc-property-matches-cocoa-ownership-rule", "objc-property-no-attribute",
   "objc-property-synthesis", "objc-protocol-method-implementation",
   "objc-protocol-property-synthesis", "objc-protocol-qualifiers",
   "objc-readonly-with-setter-property", "objc-redundant-api-use", "objc-redundant-literal-use",
   "objc-root-class", "objc-signed-char-bool", "objc-signed-char-bool-implicit-float-conversion",
   "objc-signed-char-bool-implicit-int-conversion", "objc-string-compare",
   "objc-string-concatenation", "objc-unsafe-perform-selector", "old-style-cast",
   "opencl-unsupported-rgba", "openmp-51-extensions", "openmp-clauses", "openmp-loop-form",
   "openmp-mapping", "openmp-target", "out-of-line-declaration", "override-module",
   "overriding-method-mismatch", "partial-availability", "pass", "pass-analysis", "pass-failed",
   "pass-missed", "pch-date-time", "pessimizing-move", "potentially-direct-selector",
   "pre-c++14-compat", "pre-c++14-compat-pedantic", "pre-c++17-compat",
   "pre-c++17-compat-pedantic", "pre-c++20-compat", "pre-c++20-compat-pedantic",
   "pre-openmp-51-compat", "private-header", "private-module", "profile-instr-missing",
   "profile-instr-out-of-date", "profile-instr-unprofiled", "property-access-dot-syntax",
   "property-attribute-mismatch", "protocol", "protocol-property-synthesis-ambiguity",
   "quoted-include-in-framework-header", "range-loop-analysis", "range-loop-bind-reference",
   "readonly-iboutlet-property", "receiver-expr", "receiver-forward-class", "redundant-move",
   "reinterpret-base-class", "remark-backend-plugin", "reorder-ctor", "reorder-init-list",
   "requires-super-attribute", "reserved-user-defined-literal", "retained-language-linkage",
   "return-std-move", "rewrite-not-bool", "round-trip-cc1-args", "sanitize-address", "selector",
   "selector-type-mismatch", "self-assign-field", "self-assign-overloaded",
   "serialized-diagnostics", "signed-unsigned-wchar", "slash-u-filename", "slh-asm-goto",
   "source-mgr", "spir-compat", "static-inline-explicit-instantiation", "stdlibcxx-not-found",
   "strict-aliasing=0", "strict-aliasing=1", "strict-aliasing=2", "strict-overflow=0",
   "strict-overflow=1", "strict-overflow=2", "strict-overflow=3", "strict-overflow=4",
   "strict-overflow=5", "strict-potentially-direct-selector", "strict-selector-match",
   "suggest-destructor-override", "suggest-override", "super-class-method-mismatch",
   "swift-name-attribute", "synth", "tautological-unsigned-char-zero-compare", "tcb-enforcement",
   "typename-missing", "unable-to-open-stats-file", "undeclared-selector",
   "undefined-func-template", "undefined-reinterpret-cast", "undefined-var-template",
   "underaligned-exception-object", "unguarded-availability", "unguarded-availability-new",
   "unknown-cuda-version", "unnamed-type-template-args", "unneeded-member-function",
   "unsupported-dll-base-class-template", "unsupported-floating-point-opt", "unsupported-friend",
   "unusable-partial-specialization", "unused-exception-parameter", "unused-getter-return-value",
   "unused-member-function", "unused-template", "user-defined-literals", "vexing-parse",
   "weak-template-vtables", "weak-vtables"]

/-- Whether a name is that of a warning group. `everything`, which
stands for all warnings, is not a group of its own. -/
def isNamedWarningGroup (name : String) : Bool :=
  leafWarningGroups.contains name || otherWarningGroups.contains name ||
    warningSubgroups.any (fun (g, gs) => g == name || gs.contains name)

/-- Whether a `#pragma clang diagnostic` line may name a group: a group,
or `everything`. -/
def isWarningGroup (name : String) : Bool :=
  name == "everything" || isNamedWarningGroup name

/-- Whether the warnings of group `option` are among those of `group`,
looking at most `depth` levels of groups down. -/
def groupHolds (group option : String) : Nat → Bool
  | 0 => group == option
  | d + 1 => group == option || (subgroupsOf group).any (fun g => groupHolds g option d)

/-- A change to the severity of warnings: save the settings in force,
bring back the last saved ones, or give the warnings of a group a new
severity (none to leave them out). -/
inductive SeverityAction where
  | push
  | pop
  | set (group : String) (severity : Option Severity)
deriving Repr, Inhabited

/-- The settings in force after some actions, the latest first: each a
group and the severity its warnings get. -/
def severitySettings (actions : List SeverityAction) : List (String × Option Severity) :=
  (actions.foldl step ([], [])).1
where
  /-- One action on the settings and the stack of saved settings. -/
  step : List (String × Option Severity) × List (List (String × Option Severity)) → SeverityAction →
      List (String × Option Severity) × List (List (String × Option Severity))
    | (cur, saved), .push => (cur, cur :: saved)
    | (cur, saved), .pop =>
      match saved with
      | top :: more => (top, more)
      | [] => (cur, [])
    | (cur, saved), .set g s => ((g, s) :: cur, saved)

/-- A diagnostic under some settings: its severity changed by the latest
setting whose group holds its option, or none when that setting leaves it
out. Diagnostics without an option, and notes, keep their severity. -/
def underSettings (settings : List (String × Option Severity)) (d : Diagnostic) :
    Option Diagnostic :=
  match d.option with
  | none => some d
  | some o =>
    if d.severity == .note then some d
    else
      let name := if o.startsWith "-W" then String.ofList (o.toList.drop 2) else o
      match settings.find? (fun (g, _) => g == "everything" || groupHolds g name 6) with
      | some (_, some s) => some { d with severity := s }
      | some (_, none) => none
      | none => some d

end CInspect.Language
