import NamedParams.Environment
import NamedParams.RuleInfo

namespace NamedParams

/-- Explains the rule, in words or as data. -/
def runExplain (output : OutputOptions) (environment : Environment) : CommandRun :=
  let log :=
    if output.json then [⟨.out, RuleInfo.requireNamed.toJson.pretty⟩]
    else environment.logger.plain
      (RuleInfo.requireNamed.explain environment.logger.color)
  ⟨log, .completed 0⟩

end NamedParams
