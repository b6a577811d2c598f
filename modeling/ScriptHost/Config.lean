import ScriptHost.Text.Basic

/-!
# Machine configuration

Two settings shape a machine: what membership does with operands it does not support
(fail, or answer false), and whether native methods refuse surplus arguments. They can be
read from environment variables, whose values are trimmed and compared without regard
to ASCII case; a value that is not understood keeps the default.
-/

namespace ScriptHost

/-- What membership answers for operands it does not support. -/
inductive MembershipFallback where
  | error
  | answerFalse
  deriving DecidableEq, Repr, Inhabited

def MembershipFallback.text : MembershipFallback → String
  | .error => "Error"
  | .answerFalse => "False"

structure Config where
  fallback : MembershipFallback := .error
  strictArity : Bool := true
  deriving DecidableEq, Repr, Inhabited

/-- The default settings: membership fails on unsupported operands, and surplus
arguments are refused. -/
def Config.default : Config := {}

/-- A setting's value as written: trimmed, with ASCII letters in lower case. -/
def normalizeSetting (raw : String) : String :=
  String.ofList ((Text.trim raw).toList.map Char.toLower)

/-- Reads a fallback setting: `error` or `false`. -/
def readFallback (raw : String) : Option MembershipFallback :=
  match normalizeSetting raw with
  | "error" => some .error
  | "false" => some .answerFalse
  | _ => none

/-- Reads a switch: `1`, `true`, `yes`, `on` or `0`, `false`, `no`, `off`. -/
def readSwitch (raw : String) : Option Bool :=
  match normalizeSetting raw with
  | "1" | "true" | "yes" | "on" => some true
  | "0" | "false" | "no" | "off" => some false
  | _ => none

def fallbackVariable : String := "LAGOON_MEMBERSHIP_FALLBACK"

def strictArityVariable : String := "LAGOON_STRICT_ARITY"

/-- The settings that an environment gives, the environment being its set variables. -/
def Config.ofEnvironment (env : List (String × String)) : Config :=
  let lookup (name : String) := (env.find? (·.1 = name)).map (·.2)
  let fallback := ((lookup fallbackVariable).bind readFallback).getD .error
  let strict := ((lookup strictArityVariable).bind readSwitch).getD true
  { fallback := fallback, strictArity := strict }

def Config.describe (c : Config) : String :=
  "RuntimeConfig \x7b membership_fallback: " ++ c.fallback.text ++ ", strict_arity: " ++
    (if c.strictArity then "true" else "false") ++ " \x7d"

end ScriptHost
