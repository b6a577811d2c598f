import ScriptHost.Eval
import ScriptHost.Value.Encoded

/-!
# Programs and answers

A program's steps run in order on one machine, each answered with its value or its fault and
the lines it printed; a failed step keeps what it changed. A stream sink joins the lines, so
reading them back splits lines that contain line feeds.
-/

namespace ScriptHost

inductive Sink where
  /-- each line is kept as written -/
  | buffer
  /-- lines become one text ended by line feeds, read back line by line -/
  | stream
  deriving DecidableEq, Repr, Inhabited

/-- The lines of a step as its sink gives them back. -/
def Sink.lines : Sink → Array String → List String
  | .buffer, out => out.toList
  | .stream, out => if out.isEmpty then [] else ("\n".intercalate out.toList).splitOn "\n"

inductive Construction where
  /-- the given configuration and sink, with or without the extension set -/
  | custom (sink : Sink) (extensions : Bool)
  /-- the given configuration, printing to a stream, with the extension set -/
  | configured
  /-- the default configuration, printing to a stream, with the extension set -/
  | standard
  deriving DecidableEq, Repr, Inhabited

/-- Settings as a program gives them: optionally an environment to read, then values
that override what it gives. -/
structure Settings where
  environment : Option (List (String × String)) := none
  fallback : Option MembershipFallback := none
  strictArity : Option Bool := none
  deriving Inhabited

def Settings.resolve (s : Settings) : Config :=
  let base := match s.environment with
    | some env => Config.ofEnvironment env
    | none => Config.default
  { fallback := s.fallback.getD base.fallback
    strictArity := s.strictArity.getD base.strictArity }

structure Program where
  settings : Settings
  construction : Construction
  steps : List Expr
  deriving Inhabited

inductive Outcome where
  | ok (value : Encoded) (text : String)
  | failed (fault : Fault)
  deriving Inhabited

structure StepAnswer where
  outcome : Outcome
  out : List String
  deriving Inhabited

structure Answer where
  config : Config
  steps : List StepAnswer
  deriving Inhabited

def Program.start (p : Program) : Sink × Machine :=
  match p.construction with
  | .custom sink true => (sink, Machine.withExtensions p.settings.resolve)
  | .custom sink false => (sink, Machine.bare p.settings.resolve)
  | .configured => (.stream, Machine.withExtensions p.settings.resolve)
  | .standard => (.stream, Machine.withExtensions Config.default)

/-- Runs one step and answers it, leaving the machine with no printed lines. -/
def runStep (sink : Sink) (m : Machine) (e : Expr) : StepAnswer × Machine :=
  let (result, m') := (eval depthLimit [] e).run m
  let outcome := match result with
    | .ok v => Outcome.ok (m'.store.encode v) (m'.store.display v)
    | .error f => Outcome.failed f
  (⟨outcome, sink.lines m'.output⟩, { m' with output := #[] })

/-- Runs the steps in order, each on the machine that the one before left. -/
def runSteps (sink : Sink) : Machine → List Expr → List StepAnswer
  | _, [] => []
  | m, e :: rest =>
      let (a, m') := runStep sink m e
      a :: runSteps sink m' rest

def Program.run (p : Program) : Answer :=
  let (sink, m) := p.start
  { config := m.config, steps := runSteps sink m p.steps }

end ScriptHost
