/-!
What the compiler says it supports when a program asks.

`__has_feature(name)` is 1 for the features of the language and of the
compiler that are on for C on this target, and `__has_extension(name)` is
1 for those and for the extensions it accepts in C as well. The target is
a 64-bit x86 machine running Linux with the GNU environment, which
`__is_target_arch`, `__is_target_vendor`, `__is_target_os` and
`__is_target_environment` test.
-/

namespace CInspect.Language

/-- The features that are on. -/
def features : List String :=
  ["assume_nonnull", "attribute_analyzer_noreturn", "attribute_availability",
   "attribute_availability_with_message", "attribute_availability_app_extension",
   "attribute_availability_with_version_underscores", "attribute_availability_tvos",
   "attribute_availability_watchos", "attribute_availability_with_strict",
   "attribute_availability_with_replacement", "attribute_availability_in_templates",
   "attribute_availability_swift", "attribute_cf_returns_not_retained",
   "attribute_cf_returns_retained", "attribute_cf_returns_on_parameters",
   "attribute_deprecated_with_message", "attribute_deprecated_with_replacement",
   "attribute_ext_vector_type", "attribute_ns_returns_not_retained",
   "attribute_ns_returns_retained", "attribute_ns_consumes_self", "attribute_ns_consumed",
   "attribute_cf_consumed", "attribute_objc_ivar_unused", "attribute_objc_method_family",
   "attribute_overloadable", "attribute_unavailable_with_message", "attribute_unused_on_fields",
   "attribute_diagnose_if_objc", "c_thread_safety_attributes", "enumerator_attributes",
   "nullability", "nullability_on_arrays", "nullability_nullable_result", "objc_bool",
   "ownership_holds", "ownership_returns", "ownership_takes", "arc_cf_code_audited", "tls",
   "c_alignas", "c_alignof", "c_atomic", "c_generic_selections", "c_static_assert",
   "c_thread_local", "swiftasynccc", "objc_arc_fields", "objc_property_explicit_atomic",
   "objc_protocol_qualifier_mangling", "objc_bridge_id", "objc_bridge_id_on_typedefs",
   "objc_c_static_assert"]

/-- The extensions that C accepts beyond its features, some of them named
for the C++ feature they bring over. -/
def extensions : List String :=
  ["overloadable_unmarked", "pragma_clang_attribute_namespaces",
   "pragma_clang_attribute_external_declaration", "statement_attributes_with_gnu_syntax",
   "gnu_asm", "gnu_asm_goto_with_outputs", "matrix_types_scalar_division", "cxx_fixed_enum",
   "cxx_binary_literals"]

/-- The value of `__has_feature`. -/
def hasFeature (name : String) : Bool := features.contains name

/-- The value of `__has_extension`. -/
def hasExtension (name : String) : Bool := features.contains name || extensions.contains name

/-- The environments whose names start like that of the GNU one, which
a name is checked against before it can name the GNU environment. -/
def gnuVariantEnvironments : List String :=
  ["gnuabin32", "gnuabi64", "gnueabihf", "gnueabi", "gnux32", "gnu_ilp32"]

/-- The value of a test of the target: the test's name and the word it is
given. Case does not matter. An architecture is named exactly, an
operating system or environment by a prefix of the word: `linux2` names
Linux and `gnufoo` the GNU environment, while `gnueabi` names an
environment of its own. -/
def isTarget (test word : String) : Bool :=
  let w := word.toLower
  match test with
  | "__is_target_arch" => ["x86_64", "amd64", "x86_64h"].contains w
  | "__is_target_vendor" => w == "unknown"
  | "__is_target_os" => w.startsWith "linux"
  | "__is_target_environment" =>
    w.startsWith "gnu" && !gnuVariantEnvironments.any (w.startsWith ·)
  | _ => false

end CInspect.Language
