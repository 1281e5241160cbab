/-!
The attributes the compiler knows by their GNU names.

An attribute is written `__attribute__((name))` or `__attribute__((name(arguments)))`,
and its name may be wrapped in two underscores on each side (`__packed__`).
A name the compiler does not know is ignored with a warning; one it knows
either stays on the declaration it is written on or changes the type
being declared. `__has_attribute` answers 1 for the known names, one of them apart.
-/

namespace CInspect.Language

/-- The attributes the compiler keeps on the declaration they are written
on. -/
def declarationAttributes : List String :=
  ["aligned", "packed", "pure", "const", "visibility", "warn_unused_result", "unused", "used",
   "deprecated", "unavailable", "always_inline", "noinline", "cold", "hot", "format", "format_arg",
   "nonnull", "returns_nonnull", "malloc", "alloc_size", "alloc_align", "weak", "weakref", "alias",
   "section", "cleanup", "constructor", "destructor", "mode", "transparent_union", "may_alias",
   "nothrow", "leaf", "sentinel", "nodebug", "naked", "gnu_inline", "artificial", "flatten",
   "no_instrument_function", "no_sanitize", "no_sanitize_address", "no_split_stack",
   "ifunc", "tls_model", "common", "nocommon", "returns_twice",
   "no_stack_protector", "optnone", "minsize", "overloadable", "enable_if", "diagnose_if",
   "noescape", "annotate", "warn_unused", "uninitialized", "retain", "disable_tail_calls",
   "not_tail_called", "noduplicate", "convergent", "no_builtin", "target", "cpu_specific",
   "cpu_dispatch", "callback", "interrupt", "no_caller_saved_registers",
   "assume_aligned", "flag_enum", "enum_extensibility", "objc_boxable", "swiftcall",
   "init_priority", "selectany", "lto_visibility_public", "internal_linkage", "exclude_from_explicit_instantiation",
   "no_profile_instrument_function", "nomerge", "no_sanitize_memory",
   "no_sanitize_thread", "no_address_safety_analysis",
   "patchable_function_entry", "cf_returns_retained", "cf_returns_not_retained", "cf_consumed"]

/-- The attributes the compiler knows that change a declaration's type
rather than stay on the declaration. -/
def typeAttributes : List String :=
  ["noreturn", "regparm", "stdcall", "fastcall", "cdecl", "thiscall", "vectorcall", "ms_abi",
   "sysv_abi", "vector_size", "ext_vector_type", "address_space", "noderef", "nocf_check",
   "preserve_most", "preserve_all", "pcs", "aarch64_vector_pcs", "fallthrough"]

/-- The name of an attribute without the underscores around it. -/
def attributeName (s : String) : String :=
  if s.startsWith "__" && s.endsWith "__" && s.length > 4 then String.ofList ((s.toList.drop 2).dropLast.dropLast)
  else s

/-- Every attribute `__has_attribute` reports for this target, by its GNU
name. `__const` is a second spelling of `const`. -/
def gnuAttributes : List String :=
  ["__const", "aarch64_sve_pcs", "aarch64_vector_pcs", "abi_tag", "acquire_capability",
   "acquire_handle", "acquire_shared_capability", "acquired_after", "acquired_before",
   "address_space", "alias", "align_value", "aligned", "alloc_align", "alloc_size",
   "always_destroy", "always_inline", "amdgpu_flat_work_group_size", "amdgpu_num_sgpr",
   "amdgpu_num_vgpr", "amdgpu_waves_per_eu", "analyzer_noreturn", "annotate",
   "argument_with_type_tag", "arm_sve_vector_bits", "artificial", "assert_capability",
   "assert_exclusive_lock", "assert_shared_capability", "assert_shared_lock", "assume",
   "assume_aligned", "availability", "blocks", "callable_when", "callback", "called_once",
   "capability", "carries_dependency", "cdecl", "cf_audited_transfer", "cf_consumed",
   "cf_returns_not_retained", "cf_returns_retained", "cf_unknown_transfer",
   "cfi_canonical_jump_table", "clang_builtin_alias", "cleanup", "cold", "common", "const",
   "constant", "constructor", "consumable", "consumable_auto_cast_state",
   "consumable_set_state_on_read", "convergent", "cpu_dispatch", "cpu_specific",
   "cudart_builtin", "deprecated", "destructor", "device", "device_builtin",
   "device_builtin_surface_type", "device_builtin_texture_type", "diagnose_if",
   "disable_tail_calls", "enable_if", "enforce_tcb", "enforce_tcb_leaf", "enum_extensibility",
   "exclude_from_explicit_instantiation", "exclusive_lock_function", "exclusive_locks_required",
   "exclusive_trylock_function", "ext_vector_type", "external_source_symbol", "fallthrough",
   "fastcall", "flag_enum", "flatten", "force_align_arg_pointer", "format", "format_arg",
   "global", "gnu_inline", "guarded_by", "guarded_var", "host", "hot", "ibaction", "iboutlet",
   "iboutletcollection", "ifunc", "init_priority", "intel_ocl_bicc", "intel_reqd_sub_group_size",
   "internal_linkage", "launch_bounds", "leaf", "lifetimebound", "loader_uninitialized",
   "lock_returned", "locks_excluded", "lto_visibility_public", "malloc", "managed",
   "matrix_type", "may_alias", "mig_server_routine", "min_vector_width", "minsize", "mode",
   "ms_abi", "ms_struct", "musttail", "naked", "neon_polyvector_type", "neon_vector_type",
   "no_address_safety_analysis", "no_builtin", "no_caller_saved_registers", "no_destroy",
   "no_instrument_function", "no_profile_instrument_function", "no_sanitize",
   "no_sanitize_address", "no_sanitize_coverage", "no_sanitize_memory", "no_sanitize_thread",
   "no_speculative_load_hardening", "no_split_stack", "no_stack_protector",
   "no_thread_safety_analysis", "nocf_check", "nocommon", "nodebug", "noderef", "noduplicate",
   "noescape", "noinline", "nomerge", "nonnull", "noreturn", "nosvm", "not_tail_called",
   "nothrow", "ns_consumed", "ns_consumes_self", "ns_error_domain", "ns_returns_autoreleased",
   "ns_returns_not_retained", "ns_returns_retained", "NSObject", "nv_weak",
   "objc_arc_weak_reference_unavailable", "objc_boxable", "objc_bridge", "objc_bridge_mutable",
   "objc_bridge_related", "objc_class_stub", "objc_designated_initializer", "objc_direct",
   "objc_direct_members", "objc_exception", "objc_externally_retained", "objc_gc",
   "objc_independent_class", "objc_method_family", "objc_non_runtime_protocol",
   "objc_nonlazy_class", "objc_ownership", "objc_precise_lifetime",
   "objc_protocol_requires_explicit_implementation", "objc_requires_property_definitions",
   "objc_requires_super", "objc_returns_inner_pointer", "objc_root_class", "objc_runtime_name",
   "objc_runtime_visible", "objc_subclassing_restricted", "opencl_constant", "opencl_generic",
   "opencl_global", "opencl_global_device", "opencl_global_host", "opencl_local",
   "opencl_private", "opencl_unroll_hint", "optnone", "os_consumed", "os_consumes_this",
   "os_returns_not_retained", "os_returns_retained", "os_returns_retained_on_non_zero",
   "os_returns_retained_on_zero", "overloadable", "ownership_holds", "ownership_returns",
   "ownership_takes", "packed", "param_typestate", "pascal", "pass_dynamic_object_size",
   "pass_object_size", "patchable_function_entry", "pcs", "pointer_with_type_tag",
   "preferred_name", "preserve_all", "preserve_most", "pt_guarded_by", "pt_guarded_var", "pure",
   "regcall", "regparm", "reinitializes", "release_capability", "release_generic_capability",
   "release_handle", "release_shared_capability", "reqd_work_group_size",
   "require_constant_initialization", "requires_capability", "requires_shared_capability",
   "retain", "return_typestate", "returns_nonnull", "returns_twice", "scoped_lockable",
   "section", "selectany", "sentinel", "set_typestate", "shared", "shared_capability",
   "shared_lock_function", "shared_locks_required", "shared_trylock_function",
   "speculative_load_hardening", "standalone_debug", "stdcall", "swift_async",
   "swift_async_context", "swift_async_error", "swift_async_name", "swift_attr", "swift_bridge",
   "swift_bridged_typedef", "swift_context", "swift_error", "swift_error_result",
   "swift_indirect_result", "swift_name", "swift_newtype", "swift_objc_members", "swift_private",
   "swift_wrapper", "swiftasynccall", "swiftcall", "sycl_kernel", "sysv_abi", "target",
   "test_typestate", "thiscall", "tls_model", "transparent_union", "trivial_abi",
   "try_acquire_capability", "try_acquire_shared_capability", "type_tag_for_datatype",
   "type_visibility", "unavailable", "uninitialized", "unlock_function", "unused", "use_handle",
   "used", "vec_type_hint", "vecreturn", "vector_size", "vectorcall", "visibility",
   "warn_unused", "warn_unused_result", "weak", "weak_import", "weakref", "work_group_size_hint",
   "xray_always_instrument", "xray_log_args", "xray_never_instrument"]

/-- The value of `__has_attribute` for a name written without the
underscores around it. The name `interrupt` belongs to several targets;
the test answers for the first of them to claim it, which is not this
one, so it reports 0 although the attribute is accepted here. -/
def hasGnuAttribute (name : String) : Bool := gnuAttributes.contains name

/-- Whether the compiler knows an attribute of this name, written without
the underscores around it. -/
def isKnownAttribute (name : String) : Bool :=
  hasGnuAttribute name || name == "interrupt"

/-- The attributes that take no arguments: written with a parenthesized
list that is not empty, they are an error. -/
def argumentlessAttributes : List String :=
  ["malloc", "pure", "const", "unused", "used", "always_inline", "noinline", "cold", "hot",
   "weak", "nothrow", "leaf", "nodebug", "naked", "gnu_inline", "artificial", "flatten",
   "no_instrument_function", "returns_nonnull", "returns_twice", "warn_unused_result", "packed",
   "transparent_union", "may_alias", "noreturn", "common", "nocommon", "noduplicate", "convergent",
   "minsize", "optnone", "overloadable", "retain", "no_split_stack", "no_stack_protector",
   "disable_tail_calls", "not_tail_called", "noescape", "warn_unused", "flag_enum",
   "internal_linkage", "nomerge", "no_caller_saved_registers", "no_profile_instrument_function",
   "no_sanitize_memory", "no_sanitize_thread", "no_sanitize_address", "no_address_safety_analysis",
   "selectany", "lto_visibility_public"]

/-- The attributes made for languages other than C: written here they are
ignored with a warning. -/
def foreignLanguageAttributes : List String :=
  ["constant", "device", "global", "host", "shared", "launch_bounds", "managed",
   "device_builtin_surface_type", "device_builtin_texture_type", "nosvm", "sycl_kernel",
   "objc_direct", "objc_direct_members", "objc_non_runtime_protocol", "objc_externally_retained",
   "objc_class_stub"]

/-- The attributes that change the type of a function: written where no
function type is declared, they are ignored with a warning. -/
def functionTypeAttributes : List String :=
  ["noreturn", "regparm", "cdecl", "fastcall", "stdcall", "thiscall", "regcall", "pascal",
   "swiftcall", "swiftasynccall", "vectorcall", "aarch64_vector_pcs", "ms_abi", "sysv_abi",
   "intel_ocl_bicc", "preserve_most", "preserve_all", "nocf_check", "no_caller_saved_registers"]

/-- The kinds of declaration an attribute may be made for, each with the
words the compiler lists it by when the attribute is written on another
kind. The kinds of other languages are named so that the lists read in
full, though no C declaration is one of them. -/
inductive Subject where
  | function
  /-- A function, or a pointer to one, declared with a prototype. -/
  | prototypedFunction
  | inlineFunction
  /-- A function, or a variable, member or typedef of a function pointer type. -/
  | functionLike
  /-- A variable, parameters included. -/
  | variable
  | nonParameterVariable
  /-- A variable of automatic storage, not a parameter. -/
  | localVariable
  /-- A variable of static storage. -/
  | nonLocalVariable
  | globalVariable
  | parameter
  | field
  | typedef
  | record
  | enumeration
  | method
  | instanceMethod
  | property
  | interface
  | protocol
  | block
  | classRecord
deriving DecidableEq, Inhabited

/-- The words that name a kind of declaration in a list of them. -/
def Subject.words : Subject → List String
  | .function => ["functions"]
  | .prototypedFunction => ["non-K&R-style functions"]
  | .inlineFunction => ["inline functions"]
  | .functionLike => ["functions", "function pointers"]
  | .variable | .nonParameterVariable => ["variables"]
  | .localVariable => ["local variables"]
  | .nonLocalVariable => ["variables with non-local storage"]
  | .globalVariable => ["global variables"]
  | .parameter => ["parameters"]
  | .field => ["non-static data members"]
  | .typedef => ["typedefs"]
  | .record => ["structs", "unions", "classes"]
  | .enumeration => ["enums"]
  | .method => ["Objective-C methods"]
  | .instanceMethod => ["Objective-C instance methods"]
  | .property => ["Objective-C properties"]
  | .interface => ["Objective-C interfaces"]
  | .protocol => ["Objective-C protocols"]
  | .block => ["blocks"]
  | .classRecord => ["classes"]

/-- A list in words: one item alone, two joined by "and", more with commas
and "and" before the last. -/
def listInWords : List String → String
  | [] => ""
  | [a] => a
  | [a, b] => a ++ " and " ++ b
  | items => ", ".intercalate items.dropLast ++ ", and " ++ items.getLastD ""

/-- The kinds of declaration an attribute is made for. -/
structure Reach where
  subjects : List Subject
  /-- Whether writing it on another kind is an error rather than a warning. -/
  strict : Bool := false
  /-- The words that name the kinds, when they are not the list of them. -/
  words : Option String := none
deriving Inhabited

/-- How the compiler names the kinds of declaration an attribute is made
for. -/
def Reach.text (r : Reach) : String :=
  r.words.getD (listInWords (r.subjects.flatMap Subject.words))

/-- The kinds of declaration an attribute is made for, when it is made for
some only. -/
def attributeReach? (name : String) : Option Reach :=
  let on (subjects : List Subject) : Option Reach := some { subjects := subjects }
  let strictlyOn (subjects : List Subject) : Option Reach := some { subjects := subjects, strict := true }
  match name with
  | "always_inline" | "noinline" | "cold" | "hot" | "constructor" | "destructor" | "noduplicate"
  | "convergent" | "naked" | "gnu_inline" | "no_instrument_function" | "no_split_stack"
  | "returns_twice" | "no_stack_protector" | "leaf" | "not_tail_called" | "target" | "malloc"
  | "min_vector_width" | "cf_audited_transfer" | "cf_unknown_transfer" => on [.function]
  | "flatten" | "overloadable" | "ifunc" => strictlyOn [.function]
  | "artificial" => on [.inlineFunction]
  | "minsize" | "optnone" | "disable_tail_calls" | "patchable_function_entry" => on [.function, .method]
  | "assume_aligned" | "returns_nonnull" => on [.method, .function]
  | "alloc_size" | "alloc_align" => on [.prototypedFunction]
  | "format_arg" => on [.method, .prototypedFunction]
  | "format" => on [.method, .block, .prototypedFunction]
  | "nonnull" => some { subjects := [.method, .prototypedFunction, .parameter],
                        words := some "functions, methods, and parameters" }
  | "noescape" | "pass_object_size" | "ns_consumed" | "cf_consumed" | "os_consumed" => on [.parameter]
  | "warn_unused" => on [.record]
  | "warn_unused_result" => on [.method, .enumeration, .record, .functionLike]
  | "used" | "retain" => on [.nonLocalVariable, .function, .method]
  | "weak" | "internal_linkage" => on [.variable, .function, .classRecord]
  | "section" => strictlyOn [.function, .globalVariable, .method, .property]
  | "cleanup" => strictlyOn [.localVariable]
  | "uninitialized" => on [.localVariable]
  | "common" | "nocommon" => on [.variable]
  | "mode" => strictlyOn [.variable, .enumeration, .typedef, .field]
  | "nodebug" => on [.typedef, .functionLike, .method, .nonParameterVariable]
  | "nothrow" => on [.functionLike]
  | "flag_enum" | "enum_extensibility" => strictlyOn [.enumeration]
  | "alias" => strictlyOn [.function, .globalVariable]
  | "weakref" => strictlyOn [.variable, .function]
  | "ibaction" => on [.instanceMethod]
  | "ns_consumes_self" => on [.method]
  | "objc_exception" | "objc_root_class" | "objc_subclassing_restricted" | "objc_runtime_visible"
  | "objc_requires_property_definitions" => strictlyOn [.interface]
  | "objc_returns_inner_pointer" => on [.method, .property]
  | "objc_requires_super" | "objc_method_family" => strictlyOn [.method]
  | "objc_protocol_requires_explicit_implementation" => strictlyOn [.protocol]
  | "objc_runtime_name" => strictlyOn [.interface, .protocol]
  | _ => none

/-- The value of `__has_c_attribute` for a name without a scope: the
version of the standard that brought the attribute in, for the four that
C takes from its next revision, else 0. -/
def standardAttributeVersion (name : String) : Nat :=
  if ["deprecated", "fallthrough", "maybe_unused", "nodiscard"].contains name then 201904 else 0

end CInspect.Language
