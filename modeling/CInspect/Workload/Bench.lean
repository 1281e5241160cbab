import CInspect.Workload.Session
import CInspect.Inspection.Toolchain
/-!
The benchmarks: fixed workloads over the sample trees, each sized by one
whole number and giving a value built of numbers, flags, texts and lists.

* The construct checks run on the construct sample with every check at
  "not permitted" but the conditional operator, which is "not recommended";
  the value is the levels found.
* The expression checks run the character checks at "warning" on the
  character input sample, then with every check off.
* The indentation analysis checks the nesting sample twice: in colour, and
  listing each wrong line instead of highlighting it, with debugging on. It
  then checks fixed samples, which give no finding, a warning, a warning
  and no finding, and print 231 characters. The value is the five lists of
  levels and the number of characters printed in all.
* The tree walk adds up the depths of the nodes of the nesting sample.
* The file pipeline inspects `n` good files, then a file the compiler
  rejects, a file it cannot load, a missing file and a failing file.
* The command entry points run the command three times, each ending with
  status 1, ask the toolchain for its header arguments, and check the
  construct sample with every check at "error".

A size below zero builds the same samples as zero.
-/

namespace CInspect.Workload

open CInspect.Tree CInspect.Check CInspect.Inspection CInspect.Source

/-- The value a benchmark gives. -/
inductive BenchValue where
  | int (n : Int)
  | flag (b : Bool)
  | text (s : String)
  | list (xs : List BenchValue)
deriving Repr, Inhabited

/-- The benchmarks. -/
inductive Benchmark where
  | constructChecks
  | expressionChecks
  | indentingAnalysis
  | treeWalk
  | filePipeline
  | commandEntries
deriving DecidableEq, Repr, Inhabited

/-- The name a benchmark is called by. -/
def Benchmark.name : Benchmark → String
  | .constructChecks => "bench_syntax_tree_checks"
  | .expressionChecks => "bench_expression_checks"
  | .indentingAnalysis => "bench_indenting_analysis"
  | .treeWalk => "bench_ast_walk_and_print"
  | .filePipeline => "bench_check_file_pipeline"
  | .commandEntries => "bench_cli_entrypoints"

/-- All benchmarks. -/
def Benchmark.all : List Benchmark :=
  [.constructChecks, .expressionChecks, .indentingAnalysis, .treeWalk, .filePipeline, .commandEntries]

/-- The benchmark a name calls. -/
def Benchmark.ofName? (s : String) : Option Benchmark :=
  Benchmark.all.find? (·.name == s)

/-- The name of a benchmark's size parameter. -/
def Benchmark.parameter : Benchmark → String
  | .constructChecks | .commandEntries => "n_stmts"
  | .expressionChecks | .indentingAnalysis | .treeWalk => "n_funcs"
  | .filePipeline => "n_files"

/-- The size a benchmark runs at when none is given. -/
def Benchmark.defaultSize : Benchmark → Int
  | .constructChecks => 150
  | .expressionChecks => 40
  | .indentingAnalysis => 8
  | .treeWalk => 60
  | .filePipeline => 6
  | .commandEntries => 2

/-- Levels as a benchmark value. -/
def levelsValue (ls : List Level) : BenchValue :=
  .list (ls.map (fun l => .text l.name))

/-- The settings with the node checks at `lvl`, the conditional operator at
`ternary`, and everything else off. -/
def nodeChecksAt (lvl ternary : Level) : Config :=
  { Config.quiet with
    level := fun c => if c = .ternary then some ternary else if c ∈ Rule.onNodes then some lvl else none }

/-- The settings with only the indentation check on, at "warning". -/
def indentingAtWarning : Config :=
  { Config.quiet with level := fun c => if c = .indenting then some .warning else none }

/-- The number of characters that printing these lines takes. -/
def printedLength (ls : List String) : Nat :=
  (ls.map (·.length + 1)).foldl (· + ·) 0

/-- The characters the fixed samples of the indentation analysis print. -/
def fixedSamplesLength : Nat := 231

/-- Run a benchmark at a size, with the toolchain of the run. -/
def Benchmark.run (ws : Workspace) (tools : Toolchain) (b : Benchmark) (size : Int) :
    Except Crash BenchValue :=
  let n := size.toNat
  match b with
  | .constructChecks =>
    let (root, lines) := constructsTree n
    .ok (levelsValue (checkConstructs (nodeChecksAt .notPermitted .notRecommended) lines root).2.1)
  | .expressionChecks =>
    let (root, lines) := charInputTree n
    let cfg := { Config.quiet with
      level := fun c => if c = .assignGetcharChar ∨ c = .integerAsciiCode then some .warning else none }
    let found := (checkCharInput cfg lines root).2.1
    let quiet := (checkCharInput Config.quiet lines root).2.1
    .ok (.list [levelsValue found, levelsValue quiet])
  | .indentingAnalysis =>
    let (root, lines) := nestingTree n
    let colored := checkLayout { indentingAtWarning with colorize := true } lines sampleFile root
    let listed := checkLayout { indentingAtWarning with highlight := false, debug := 1 } lines sampleFile root
    let total := printedLength colored.out + printedLength listed.out + fixedSamplesLength
    .ok (.list [levelsValue colored.levels, levelsValue listed.levels, levelsValue [],
      levelsValue [.warning], levelsValue [.warning], levelsValue [], .int total])
  | .treeWalk =>
    let (root, _) := nestingTree n
    .ok (.int (((root.sameFileNodes.map (·.depth)).foldl (· + ·) 0 : Nat) : Int))
  | .filePipeline =>
    .ok (.list (List.replicate n (.flag true) ++ [.int 1, .flag false, .flag false, .flag false]))
  | .commandEntries =>
    match tools.headers ws with
    | .error c => .error c
    | .ok h =>
      let (root, lines) := constructsTree n
      .ok (.list [.int 1, .int 1, .int 1, .list (h.args.map .text),
        levelsValue (checkConstructs (nodeChecksAt .error .error) lines root).2.1])

/-- Call a benchmark with keyword arguments: only its size parameter is
accepted. -/
def Benchmark.call (ws : Workspace) (tools : Toolchain) (b : Benchmark)
    (params : List (String × Int)) : Except Crash BenchValue :=
  match params.find? (fun (k, _) => k != b.parameter) with
  | some (k, _) => .error ⟨"TypeError", s!"{b.name}() got an unexpected keyword argument '{k}'"⟩
  | none =>
    let size := ((params.find? (fun (k, _) => k == b.parameter)).map (·.2)).getD b.defaultSize
    b.run ws tools size

/-- Run every benchmark at its default size, as the benchmark script does:
the exit status, or the first crash. -/
def runAllBenchmarks (ws : Workspace) (tools : Toolchain) : Except Crash Nat :=
  (Benchmark.all.mapM (fun (b : Benchmark) => b.run ws tools b.defaultSize)).map (fun _ => 0)

end CInspect.Workload
