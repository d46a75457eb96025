import NamedParams.Json.Printer
import NamedParams.Terminal.Style

namespace NamedParams

/-- What users are told about a rule. -/
structure RuleInfo where
  name : String
  description : String
  details : String
  group : String
  version : String
deriving DecidableEq, Repr, Inhabited

namespace RuleInfo

def detailLines : List String :=
  ["**DO** specify \x60@required\x60 on a named parameter without a default value",
    "on which an \x60assert(param != null)\x60 is done.",
    "",
    "**GOOD:**",
    "\x60\x60\x60",
    "import \x7b required \x7d from 'meta';",
    "",
    "class Client \x7b",
    "  connect(@required \x7b host \x7d: Options) \x7b",
    "    assert(host != null);",
    "  \x7d",
    "",
    "  retry(\x7b attempts = 3 \x7d: RetryOptions) \x7b",
    "    assert(attempts != null);",
    "  \x7d",
    "\x7d",
    "\x60\x60\x60",
    "",
    "**BAD:**",
    "\x60\x60\x60",
    "function connect(\x7b host \x7d: Options) \x7b",
    "  assert(host != null);",
    "\x7d",
    "\x60\x60\x60",
    "",
    "NOTE: Only asserts at the start of the bodies will be taken into account."]

/-- The rule that this program checks. -/
def requireNamed : RuleInfo :=
  { name := "require-non-null-named-params"
    description := "Use @required."
    details := "\n".intercalate detailLines
    group := "style"
    version := "1.0.0" }

/-- The explanation of a rule: its name, group and version, and then what it says. -/
def explain (color : Bool) (rule : RuleInfo) : String :=
  let origin := paint color .gray ("(" ++ rule.group ++ ", v" ++ rule.version ++ ")")
  "\n".intercalate
    [paint color .bold rule.name ++ " " ++ origin, rule.description, "", rule.details]

def toJson (rule : RuleInfo) : Json :=
  .object [("name", .string rule.name), ("description", .string rule.description),
    ("details", .string rule.details), ("group", .string rule.group),
    ("version", .string rule.version)]

end RuleInfo

/-- The complaint about a parameter. -/
def complaint (parameter : String) : String :=
  "Named parameter '" ++ parameter ++ "' is asserted non-null; mark it with @required."

end NamedParams
